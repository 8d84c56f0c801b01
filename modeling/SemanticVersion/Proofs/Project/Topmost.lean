import SemanticVersion.Proofs.Project.Discovery

/-!
# The topmost directory

The nearest manifest is meant to decide, wherever it is.  The search goes from a directory to the one above
it as long as there is one above it, and looks for a manifest before each step.  So it takes its last look
one step below the topmost directory: a manifest there is as good as none.

**Nothing else is missed.**  Whenever the nearest manifest is further down, the search finds it, however
deep the search begins and whatever the topmost directory holds.  The settings are then what that manifest
says, and nothing of another manifest gets into them.  The usual settings are left for the case that no
directory but perhaps the topmost one has a manifest.

* `Manifest.loading` — what one manifest says.
* `loadConfig_of_isNearest`, `loadConfig_of_nowhere` — the settings with and without a project.
* `search_ends_below_topmost` — all of this together.
-/

namespace SemanticVersion

variable {tree : FileTree} {working found : List String} {environment : Environment}

/-! ## What is loaded -/

/-- What one manifest says, read as the manifest of the directory at a path. -/
def Manifest.loading (manifest : Manifest) (path : Path) (environment : Environment) : Loading :=
  match manifest with
  | .unreadable reason => ⟨none, .error (.unreadable reason)⟩
  | .document value =>
    ⟨some (.loaded (path.child manifestName).text),
      Config.ofDocument value (some path) >>= (·.overridden environment)⟩

/-- Of the whole tree, only the manifest of the directory matters. -/
lemma loadDirectory_eq_loading {path : Path} {manifest : Manifest}
    (held : tree.manifestAt working path = some manifest) :
    loadDirectory tree working environment path = manifest.loading path environment := by
  rw [loadDirectory, held]
  cases manifest with
  | document value => rfl
  | unreadable reason => rfl

/-- **With a project, its manifest decides.** -/
theorem loadConfig_of_isNearest {manifest : Manifest} (plain : ".." ∉ working) (below : found ≠ [])
    (nearest : tree.IsNearest working found) (held : tree.manifest? found = some manifest) :
    loadConfig tree working environment none = manifest.loading (.absolute found) environment := by
  have search : findProject tree working "" = .ok found := findProject_eq_ok_iff.2 ⟨below, nearest⟩
  have entered : tree.enter working (.absolute found) = some found :=
    enter_absolute (fun back => plain (nearest.above.subset back)) nearest.holds
  have there : tree.manifestAt working (.absolute found) = some manifest := by
    rw [FileTree.manifestAt, entered]
    exact held
  rw [loadConfig, search]
  exact loadDirectory_eq_loading there

/-- **Without a project, the settings are the usual ones,** after the environment had its say. -/
theorem loadConfig_of_nowhere
    (nowhere : ∀ place, place <+: working → place ≠ [] → tree.isManifest place = false) :
    loadConfig tree working environment none = ⟨some .usual, Config.overridden {} environment⟩ := by
  have search : findProject tree working "" = .error .noProject :=
    findProject_eq_error_iff.2 ⟨rfl, nowhere⟩
  rw [loadConfig, search]

/-- **The search ends below the topmost directory.**  It finds the nearest directory with a manifest, unless
that is the topmost one, and otherwise it fails.  The settings come from the manifest of the directory that
is found from the working directory, and when none is found they are the usual ones. -/
theorem search_ends_below_topmost (tree : FileTree) (working : List String) (start : String)
    (environment : Environment) (plain : ".." ∉ working) :
    let directory := (Path.ofText start).resolve working
    (∀ found, findProject tree working start = .ok found ↔
      found ≠ [] ∧ tree.IsNearest directory found) ∧
    (∀ error, findProject tree working start = .error error ↔
      error = .noProject ∧
        ∀ place, place <+: directory → place ≠ [] → tree.isManifest place = false) ∧
    (∀ found manifest, found ≠ [] → tree.IsNearest working found →
      tree.manifest? found = some manifest →
        loadConfig tree working environment none = manifest.loading (.absolute found) environment) ∧
    ((∀ place, place <+: working → place ≠ [] → tree.isManifest place = false) →
      loadConfig tree working environment none = ⟨some .usual, Config.overridden {} environment⟩) := by
  intro directory
  refine ⟨fun found => findProject_eq_ok_iff, fun error => findProject_eq_error_iff, ?_, ?_⟩
  · intro found manifest below nearest held
    exact loadConfig_of_isNearest plain below nearest held
  · exact loadConfig_of_nowhere

/-- A service below a directory with a manifest, in a tree whose topmost directory has another one. -/
theorem search_of_service :
    let manifest (version : String) : Manifest :=
      .document (.table [("project", .table [("version", .text version)])])
    let tree : FileTree := ⟨[["srv", "app"]], [([], manifest "1.0.0"), (["srv"], manifest "2.0.0")]⟩
    ".." ∉ ["srv", "app"] ∧ findProject tree ["srv", "app"] "" = .ok ["srv"] ∧
      (loadConfig tree ["srv", "app"] [] none).outcome =
        .ok { projectDirectory := some (.absolute ["srv"]), version := .text "2.0.0" } := by
  intro manifest tree
  have plain : ".." ∉ ["srv", "app"] := by decide
  have nearest : tree.IsNearest (["srv"] ++ ["app"]) ["srv"] :=
    (FileTree.isNearest_concat rfl).2 (FileTree.isNearest_self rfl)
  obtain ⟨found, -, loaded, -⟩ := search_ends_below_topmost tree ["srv", "app"] "" [] plain
  have below : ["srv"] ≠ [] := List.cons_ne_nil _ _
  refine ⟨plain, (found ["srv"]).2 ⟨below, nearest⟩, ?_⟩
  rw [loaded ["srv"] (manifest "2.0.0") below nearest rfl]
  rfl

/-- A manifest in the topmost directory is the nearest one, and neither found nor loaded. -/
theorem search_misses_topmost :
    let project : Value := .table [("name", .text "x"), ("version", .text "1.0.0")]
    let tree : FileTree := ⟨[["tmp", "work"]], [([], .document (.table [("project", project)]))]⟩
    tree.IsNearest ["tmp", "work"] [] ∧ findProject tree ["tmp", "work"] "" = .error .noProject ∧
      loadConfig tree ["tmp", "work"] [] none = ⟨some .usual, .ok {}⟩ := by
  intro project tree
  have nearest : tree.IsNearest ([] ++ ["tmp"] ++ ["work"]) [] :=
    (FileTree.isNearest_concat rfl).2
      ((FileTree.isNearest_concat rfl).2 (FileTree.isNearest_self rfl))
  exact ⟨nearest, rfl, rfl⟩

end SemanticVersion
