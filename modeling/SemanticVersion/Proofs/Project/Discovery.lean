import Mathlib.Data.List.Infix
import SemanticVersion.Project.Discovery
import SemanticVersion.Proofs.Config.Reading

/-!
# Where settings come from

The search for a project goes upwards, one directory after the other, and stops at the first manifest.
What it finds is the longest path with a manifest among the paths that the starting directory continues.
The topmost directory is not searched, so this is true as far as that directory holds no manifest.

The settings are read from the manifest of a given directory, or from the manifest that was found, or
they are the usual ones; and in each case the environment has the last word.

* `FileTree.IsNearest` — the nearest directory with a manifest.
* `nearestManifest_eq_some_iff`, `nearestManifest_eq_none_iff` — the search finds it.
* `findProject_eq_ok_iff`, `findProject_eq_error_iff` — so it is the project, if there is one.
* `enter_absolute` — what was found can be entered.
* `FileTree.HasSource`, `FileTree.HasConfig` — where settings come from, and which they are.
* `loadConfig_eq_ok_iff` — these are the settings that are loaded.
* `loadConfig_ne_failure` — when none are loaded, the reason is one that is expected.
-/

namespace SemanticVersion

namespace FileTree

/-- The nearest directory with a manifest, from a directory upwards.  Every other one is further up. -/
structure IsNearest (tree : FileTree) (directory found : List String) : Prop where
  above : found <+: directory
  holds : tree.isManifest found = true
  nearest : ∀ other, other <+: directory → tree.isManifest other = true → other <+: found

variable {tree : FileTree} {directory found : List String} {name : String}

/-- There is at most one nearest directory with a manifest. -/
lemma IsNearest.eq_iff (h : tree.IsNearest directory found) {other : List String} :
    tree.IsNearest directory other ↔ other = found := by
  constructor
  · intro h'
    have longest := h'.nearest found h.above h.holds
    exact (h.nearest other h'.above h'.holds).eq_of_length_le longest.length_le
  · rintro rfl
    exact h

lemma IsNearest.exists_manifest (h : tree.IsNearest directory found) :
    ¬ ∀ place, place <+: directory → tree.isManifest place = false := by
  intro nowhere
  have absent := nowhere found h.above
  rw [h.holds] at absent
  contradiction

/-- A directory with a manifest is itself the nearest one. -/
lemma isNearest_self (holds : tree.isManifest directory = true) :
    tree.IsNearest directory directory :=
  ⟨List.prefix_rfl, holds, fun _ above _ => above⟩

/-- Without a manifest in a directory, the search goes on above it. -/
lemma isNearest_concat (holds : tree.isManifest (directory ++ [name]) = false) :
    tree.IsNearest (directory ++ [name]) found ↔ tree.IsNearest directory found := by
  have strict (other : List String) (holder : tree.isManifest other = true) :
      other <+: directory ++ [name] ↔ other <+: directory := by
    rw [List.prefix_concat_iff, or_iff_right]
    rintro rfl
    rw [holds] at holder
    contradiction
  constructor
  · intro h
    refine ⟨(strict found h.holds).1 h.above, h.holds, fun other above holder => ?_⟩
    exact h.nearest other ((strict other holder).2 above) holder
  · intro h
    refine ⟨(strict found h.holds).2 h.above, h.holds, fun other above holder => ?_⟩
    exact h.nearest other ((strict other holder).1 above) holder

end FileTree

section Search

variable {tree : FileTree} {directory working found : List String} {start : String}

/-- **The search finds the nearest directory with a manifest,** unless that is the topmost one. -/
theorem nearestManifest_eq_some_iff : nearestManifest tree directory.reverse = some found ↔
    found ≠ [] ∧ tree.IsNearest directory found := by
  induction directory using List.reverseRecOn with
  | nil =>
      refine ⟨nofun, fun ⟨nonempty, nearest⟩ => ?_⟩
      exact absurd (List.prefix_nil.1 nearest.above) nonempty
  | append_singleton directory name ih =>
      rw [List.reverse_concat, nearestManifest, ← List.reverse_concat, List.reverse_reverse]
      cases holds : tree.isManifest (directory ++ [name]) with
      | true =>
          rw [if_pos rfl, (FileTree.isNearest_self holds).eq_iff, Option.some.injEq]
          constructor
          · rintro rfl
            exact ⟨by simp, rfl⟩
          · exact fun ⟨_, same⟩ => same.symm
      | false =>
          rw [if_neg Bool.false_ne_true, ih, FileTree.isNearest_concat holds]

/-- The search finds nothing when there is no manifest but perhaps in the topmost directory. -/
theorem nearestManifest_eq_none_iff : nearestManifest tree directory.reverse = none ↔
    ∀ other, other <+: directory → other ≠ [] → tree.isManifest other = false := by
  induction directory using List.reverseRecOn with
  | nil =>
      refine ⟨fun _ other above nonempty => ?_, fun _ => rfl⟩
      exact absurd (List.prefix_nil.1 above) nonempty
  | append_singleton directory name ih =>
      rw [List.reverse_concat, nearestManifest, ← List.reverse_concat, List.reverse_reverse]
      simp only [List.prefix_concat_iff, or_imp, forall_and, forall_eq]
      cases holds : tree.isManifest (directory ++ [name]) with
      | true => simp
      | false => simp [ih]

/-- The project of a path is the nearest directory with a manifest, unless that is the topmost one. -/
lemma findProject_eq_ok_iff : findProject tree working start = .ok found ↔
    found ≠ [] ∧ tree.IsNearest ((Path.ofText start).resolve working) found := by
  rw [findProject, ← nearestManifest_eq_some_iff]
  cases nearestManifest tree ((Path.ofText start).resolve working).reverse with
  | none => simp
  | some place => simp

/-- A path has no project when there is no manifest but perhaps in the topmost directory. -/
lemma findProject_eq_error_iff {error : ConfigError} : findProject tree working start = .error error ↔
    error = .noProject ∧ ∀ place, place <+: (Path.ofText start).resolve working → place ≠ [] →
      tree.isManifest place = false := by
  rw [findProject, ← nearestManifest_eq_none_iff]
  cases nearestManifest tree ((Path.ofText start).resolve working).reverse with
  | none => simp [eq_comm]
  | some place => simp

end Search

/-! ## Entering directories -/

section Entering

variable {tree : FileTree} {working found : List String}

/-- Whatever leads to a manifest exists. -/
lemma isDirectory_of_prefix {holder place : List String} (holds : tree.isManifest holder = true)
    (above : place <+: holder) : tree.isDirectory place = true := by
  obtain ⟨manifest, found⟩ := Option.isSome_iff_exists.1 holds
  obtain ⟨front, back, split, -⟩ := List.lookup_eq_some_iff.1 found
  have mem : (holder, manifest) ∈ tree.manifests := by
    rw [split]
    exact List.mem_append_right _ List.mem_cons_self
  rw [FileTree.isDirectory, Bool.or_eq_true]
  refine .inr (List.any_eq_true.2 ⟨_, mem, ?_⟩)
  exact List.isPrefixOf_iff_prefix.2 above

/-- Names are followed one after the other, as long as none of them leads back. -/
lemma enterNames_eq {directory names : List String} (plain : ".." ∉ names)
    (exist : ∀ place, place <+: directory ++ names → tree.isDirectory place = true) :
    tree.enterNames directory names = some (directory ++ names) := by
  induction names generalizing directory with
  | nil => simp [FileTree.enterNames]
  | cons name names ih =>
      obtain ⟨different, plain⟩ := not_or.1 (List.mem_cons.not.1 plain)
      have same : directory ++ name :: names = directory ++ [name] ++ names := by simp
      rw [same] at exist ⊢
      rw [FileTree.enterNames, if_neg (Ne.symm different),
        if_pos (exist _ (List.prefix_append ..))]
      exact ih plain exist

/-- The path to a directory with a manifest leads there. -/
theorem enter_absolute (plain : ".." ∉ found) (holds : tree.isManifest found = true) :
    tree.enter working (.absolute found) = some found := by
  show tree.enterNames [] found = some found
  exact enterNames_eq plain fun place above => isDirectory_of_prefix holds above

end Entering

/-! ## Settings -/

namespace FileTree

/-- The manifest in a directory declares settings.  They mention the path by which it was asked for. -/
def Declares (tree : FileTree) (place : List String) (path : Path) (source : Config) : Prop :=
  ∃ document, tree.manifest? place = some (.document document) ∧
    (Config.declared (some path) document).Sets document.bumpSetting document.modeSetting source

/-- Where settings come from: from the manifest of a directory that is given, or else from the nearest
one, or else there is none and the settings are the usual ones. -/
def HasSource (tree : FileTree) (working : List String) : Option Path → Config → Prop
  | some path, source =>
    ∃ place, tree.enter working path = some place ∧ tree.Declares place path source
  | none, source =>
    (∃ place, tree.IsNearest working place ∧ tree.Declares place (.absolute place) source) ∨
      (∀ place, place <+: working → tree.isManifest place = false) ∧ source = {}

/-- Which settings there are: those of the environment in place of those of the source. -/
def HasConfig (tree : FileTree) (working : List String) (environment : Environment)
    (directory : Option Path) (config : Config) : Prop :=
  ∃ source, tree.HasSource working directory source ∧
    source.Sets environment.bumpSetting environment.modeSetting config

/-- The file trees with regular manifests, but none in the topmost directory.  Double dots are no name of
a directory. -/
structure IsRegular (tree : FileTree) : Prop where
  top : tree.isManifest [] = false
  names : ∀ place, tree.isManifest place = true → ".." ∉ place
  documents : ∀ place document, tree.manifest? place = some (.document document) → document.IsRegular

end FileTree

section Loading

variable {tree : FileTree} {working : List String} {environment : Environment} {path : Path}
  {place : List String} {config : Config}

/-- The settings that are loaded from a directory are those that its manifest declares, after the
environment had its say. -/
lemma loadDirectory_eq_ok_iff (regular : tree.IsRegular) :
    (loadDirectory tree working environment path).outcome = .ok config ↔
      tree.HasConfig working environment (some path) config := by
  simp only [loadDirectory, FileTree.manifestAt, FileTree.HasConfig, FileTree.HasSource]
  cases tree.enter working path with
  | none => simp
  | some place =>
      cases held : tree.manifest? place with
      | none => simp [FileTree.Declares, held]
      | some manifest =>
          cases manifest with
          | unreadable reason => simp [FileTree.Declares, held]
          | document document =>
              have shape := (regular.documents place document held).hasShape
              simp [FileTree.Declares, held, bind_eq_ok_iff, Config.overridden_eq_ok_iff,
                Config.ofDocument_eq_ok_iff shape]

lemma loadDirectory_ne_failure (regular : tree.IsRegular) (error : Error) :
    (loadDirectory tree working environment path).outcome ≠ .error (.failure error) := by
  simp only [loadDirectory, FileTree.manifestAt]
  cases tree.enter working path with
  | none => simp
  | some place =>
      cases held : tree.manifest? place with
      | none => simp [held]
      | some manifest =>
          cases manifest with
          | unreadable reason => simp [held]
          | document document =>
              have regular := regular.documents place document held
              intro failed
              simp only [held, Option.bind_eq_bind, Option.bind_some] at failed
              obtain refused | ⟨source, -, refused⟩ := bind_eq_error_iff.1 failed
              · have expected := Config.ofDocument_eq_error regular.isReadable refused
                simp at expected
              · have expected := Config.overridden_eq_error refused
                simp at expected

/-- A project that was found is entered by the path to it. -/
lemma FileTree.IsNearest.hasConfig_absolute (nearest : tree.IsNearest working place)
    (regular : tree.IsRegular) :
    tree.HasConfig working environment (some (.absolute place)) config ↔
      tree.HasConfig working environment none config := by
  have entered : tree.enter working (.absolute place) = some place :=
    enter_absolute (regular.names place nearest.holds) nearest.holds
  simp [FileTree.HasConfig, FileTree.HasSource, entered, nearest.eq_iff, nearest.exists_manifest]

/-- There is a nearest directory with a manifest, or there is none at all. -/
lemma findProject_outcomes (regular : tree.IsRegular) (working : List String) :
    (∃ place, findProject tree working "" = .ok place ∧ tree.IsNearest working place) ∨
    (∃ error, findProject tree working "" = .error error) ∧
      ∀ place, place <+: working → tree.isManifest place = false := by
  cases search : findProject tree working "" with
  | ok place => exact .inl ⟨place, rfl, (findProject_eq_ok_iff.1 search).2⟩
  | error error =>
      refine .inr ⟨⟨error, rfl⟩, fun place above => ?_⟩
      by_cases top : place = []
      · rw [top]
        exact regular.top
      · exact (findProject_eq_error_iff.1 search).2 place above top

/-- **The settings that are loaded are those of the given directory, of the nearest project or the usual
ones,** after the environment had its say. -/
theorem loadConfig_eq_ok_iff (regular : tree.IsRegular) {directory : Option Path} :
    (loadConfig tree working environment directory).outcome = .ok config ↔
      tree.HasConfig working environment directory config := by
  cases directory with
  | some path => exact loadDirectory_eq_ok_iff regular
  | none =>
      rw [loadConfig]
      obtain ⟨place, found, nearest⟩ | ⟨⟨_, failed⟩, nowhere⟩ := findProject_outcomes regular working
      · simp only [found, ← nearest.hasConfig_absolute regular]
        exact loadDirectory_eq_ok_iff regular
      · have absent (place : List String) : ¬ tree.IsNearest working place := fun nearest =>
          nearest.exists_manifest nowhere
        simp only [failed, FileTree.HasConfig, FileTree.HasSource, absent, false_and, exists_false,
          false_or, eq_true nowhere, true_and, exists_eq_left]
        exact Config.overridden_eq_ok_iff

/-- When there are no settings, the reason is one that is expected. -/
theorem loadConfig_ne_failure (regular : tree.IsRegular) (directory : Option Path) (error : Error) :
    (loadConfig tree working environment directory).outcome ≠ .error (.failure error) := by
  cases directory with
  | some path => exact loadDirectory_ne_failure regular error
  | none =>
      rw [loadConfig]
      split
      · exact loadDirectory_ne_failure regular error
      · intro refused
        have expected := Config.overridden_eq_error refused
        simp at expected

/-- The version in the settings can be displayed, whatever it is. -/
theorem FileTree.HasConfig.writable (regular : tree.IsRegular) {directory : Option Path}
    (h : tree.HasConfig working environment directory config) :
    ∀ n ∈ config.version.integers, IsWritable n := by
  obtain ⟨source, hasSource, sets⟩ := h
  rw [sets.version]
  have declares {place : List String} {path : Path} (h : tree.Declares place path source) :
      ∀ n ∈ source.version.integers, IsWritable n := by
    obtain ⟨document, held, sets⟩ := h
    rw [sets.version]
    exact Config.writable_of_mem_declared (regular.documents place document held)
  cases directory with
  | some path =>
      obtain ⟨place, -, declared⟩ := hasSource
      exact declares declared
  | none =>
      obtain ⟨place, -, declared⟩ | ⟨-, rfl⟩ := hasSource
      · exact declares declared
      · simp [Value.integers]

end Loading

end SemanticVersion
