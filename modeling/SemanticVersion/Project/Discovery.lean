import SemanticVersion.Config
import SemanticVersion.Project.FileTree

/-!
# Finding a project and its settings

The project of a directory is the nearest directory upwards that holds a manifest.  Without a
project the settings are the usual ones.

* `nearestManifest`, `findProject` — the project of a directory.
* `Notice` — what is worth telling about where settings come from.
* `loadDirectory`, `loadConfig` — the settings of a given directory, or of the project that the
  working directory belongs to, after the environment had its say.

The search goes from the starting directory upwards and **ends below the topmost directory**, so a
manifest in the topmost directory itself is never found.
-/

namespace SemanticVersion

/-! ## Projects -/

/-- The nearest directory with a manifest, as the names from the topmost directory.  `below` holds
the names that lead to the starting directory, the last one first. -/
def nearestManifest (tree : FileTree) : (below : List String) → Option (List String)
  | [] => none
  | name :: above =>
    if tree.isManifest (name :: above).reverse then some (name :: above).reverse
    else nearestManifest tree above

/-- The project that a path belongs to.  The path itself need not exist.  The empty text stands for
the working directory. -/
def findProject (tree : FileTree) (working : List String) (start : String) :
    Except ConfigError (List String) :=
  match nearestManifest tree ((Path.ofText start).resolve working).reverse with
  | some directory => .ok directory
  | none => .error .noProject

/-! ## Settings -/

/-- What is told about where settings come from. -/
inductive Notice where
  /-- A manifest was read. -/
  | loaded (path : String)
  /-- There is no project. -/
  | usual
deriving DecidableEq, Repr

/-- The wording of a notice. -/
def Notice.message : Notice → String
  | .loaded path => "Loaded configuration from " ++ path
  | .usual => "No pyproject.toml found, using default configuration"

/-- Settings, or why there are none, with what is told about them. -/
structure Loading where
  /-- What is told. -/
  notice : Option Notice
  /-- The settings. -/
  outcome : Except ConfigError Config

/-- The settings after the environment had its say, if it is not refused. -/
def Config.overridden (config : Config) (environment : Environment) :
    Except ConfigError Config :=
  let (config, outcome) := config.override environment
  outcome.map fun () => config

/-- The settings of the project in a directory. -/
def loadDirectory (tree : FileTree) (working : List String) (environment : Environment)
    (directory : Path) : Loading :=
  match tree.manifestAt working directory with
  | none => ⟨none, .error (.missing directory.text)⟩
  | some (.unreadable reason) => ⟨none, .error (.unreadable reason)⟩
  | some (.document document) => {
      notice := some (.loaded (directory.child manifestName).text)
      outcome := do
        let config ← Config.ofDocument document directory
        config.overridden environment }

/-- The settings of a given directory, or else of the project that the working directory belongs
to, or else the usual ones. -/
def loadConfig (tree : FileTree) (working : List String) (environment : Environment)
    (directory : Option Path) : Loading :=
  match directory with
  | some directory => loadDirectory tree working environment directory
  | none =>
    match findProject tree working "" with
    | .ok project => loadDirectory tree working environment (.absolute project)
    | .error _ => ⟨some .usual, Config.overridden {} environment⟩

end SemanticVersion
