import SemanticVersion.Config
import SemanticVersion.Project.Discovery
import SemanticVersion.Proofs.Outcome
import SemanticVersion.Proofs.Value.Display

/-!
# What settings are read from

Settings come from two sources, and each of the sources may set an identifier and a mode.  A manifest
replaces all settings, where the usual ones stand for what it does not set; an environment replaces the
settings that it sets and leaves the others alone.  So **both sources are read in the same way,** as two
values that may be there, put in place of the settings before.

In a manifest the values are found through three tables.  What is no table cannot be asked for an entry,
and then reading the manifest fails in a way that is not about settings.  The innermost value is only
searched for the names of the settings, and as long as it mentions none it need not be a table.

* `Value.at?`, `Value.bumpSetting`, `Value.modeSetting` — the value at some keys, and the two settings.
* `Value.IsSearchable`, `Value.HasShape` — the values that can be searched, and the documents in which
  settings can be looked up.
* `Value.IsReadable`, `Value.IsRegular` — the documents that can be read, and those that consist of tables
  and can be displayed.
* `SetsBump`, `SetsMode`, `Config.Sets` — settings with other settings put in place of them.
* `ofDocument_eq_ok_iff`, `override_eq_ok_iff` — reading a manifest and an environment.
* `ofDocument_eq_error`, `override_outcomes` — what happens when a setting is refused.
-/

namespace SemanticVersion

/-! ## Values in a document -/

namespace Value

/-- Whether a value is a table. -/
def isTable : Value → Bool
  | .table _ => true
  | _ => false

/-- The value that some keys lead to, through tables. -/
def at? : List String → Value → Option Value
  | [], value => some value
  | key :: keys, .table entries => (entries.lookup key).bind (at? keys)
  | _ :: _, _ => none

/-- Whether the values that settings are looked up in are tables, as far as they are there. -/
def hasTables (document : Value) : Bool :=
  [[], ["project"], ["tool"], ["tool", toolTable]].all fun keys => (document.at? keys).all isTable

/-- The setting for the identifier in a document. -/
def bumpSetting (document : Value) : Option Value :=
  document.at? ["tool", toolTable, "default-bump"]

/-- The setting for the mode in a document. -/
def modeSetting (document : Value) : Option Value :=
  document.at? ["tool", toolTable, "sort-mode"]

/-- The values that can be searched for a name.  What is no table must not mention it. -/
def IsSearchable (name : String) : Value → Prop
  | .table _ => True
  | .list items => .text name ∉ items
  | .tuple items => .text name ∉ items
  | .text content => ¬ name.toList <:+: content.toList
  | _ => False

/-- The value in a document that is searched for the two settings.  It is an empty table when there is
none. -/
def searched (document : Value) : Value :=
  (document.at? ["tool", toolTable]).getD (.table [])

/-- The documents in which settings can be looked up. -/
structure HasShape (document : Value) : Prop where
  top : document.isTable = true
  project : ∀ value, document.at? ["project"] = some value → value.isTable = true
  tools : ∀ value, document.at? ["tool"] = some value → value.isTable = true
  bump : document.searched.IsSearchable "default-bump"
  mode : document.searched.IsSearchable "sort-mode"

/-- The documents in which settings can be looked up, and displayed when they are refused. -/
structure IsRegular (document : Value) : Prop where
  tables : document.hasTables = true
  writable : ∀ n ∈ document.integers, IsWritable n

lemma exists_eq_table {value : Value} (table : value.isTable = true) :
    ∃ entries, value = .table entries := by
  cases value with
  | table entries => exact ⟨entries, rfl⟩
  | _ => contradiction

@[simp] lemma at?_singleton (entries : List (String × Value)) (key : String) :
    at? [key] (.table entries) = entries.lookup key := by
  simp [at?]

lemma entry?_table (entries : List (String × Value)) (key : String) :
    Value.entry? key (.table entries) = .ok (entries.lookup key) := rfl

/-- Keys are followed one after the other. -/
lemma at?_append (keys keys' : List String) (value : Value) :
    value.at? (keys ++ keys') = (value.at? keys).bind (at? keys') := by
  induction keys generalizing value with
  | nil => simp [at?]
  | cons key keys ih =>
      cases value with
      | table entries => cases found : entries.lookup key <;> simp [at?, found, ih]
      | _ => simp [at?]

lemma isSearchable_of_isTable {value : Value} (table : value.isTable = true) (name : String) :
    value.IsSearchable name := by
  obtain ⟨entries, rfl⟩ := exists_eq_table table
  trivial

/-- Documents that consist of tables have the right shape. -/
lemma hasShape_of_hasTables {document : Value} (tables : document.hasTables = true) :
    document.HasShape := by
  simp only [hasTables, List.all_cons, List.all_nil, Bool.and_true, Bool.and_eq_true,
    Option.all_eq_true] at tables
  obtain ⟨top, project, tools, tool⟩ := tables
  have searched : document.searched.isTable = true := by
    rw [Value.searched]
    cases found : document.at? ["tool", toolTable] with
    | none => rfl
    | some value => exact tool value found
  exact ⟨top document rfl, project, tools, isSearchable_of_isTable searched _,
    isSearchable_of_isTable searched _⟩

lemma IsRegular.hasShape {document : Value} (regular : document.IsRegular) : document.HasShape :=
  hasShape_of_hasTables regular.tables

lemma isText_iff {name : String} {value : Value} : value.isText name = true ↔ value = .text name := by
  cases value with
  | text content => simp [isText]
  | _ => simp [isText]

lemma containsRun_iff {part cs : List Char} : containsRun part cs = true ↔ part <:+: cs := by
  induction cs with
  | nil => simp [containsRun]
  | cons c cs ih => simp [containsRun, ih, List.infix_cons_iff]

/-- A list holds nothing under a name, and does not mention it when the name is none of its items. -/
lemma any_isText_iff {name : String} {items : List Value} :
    items.any (isText name) = true ↔ .text name ∈ items := by
  simp [List.any_eq_true, isText_iff]

/-- What can be searched for a name holds what lies under it, which is nothing without a table. -/
theorem mentioned?_of_isSearchable {value : Value} {name : String}
    (searchable : value.IsSearchable name) : value.mentioned? name = .ok (value.at? [name]) := by
  cases value with
  | table entries => rw [mentioned?, at?_singleton]
  | list items =>
      rw [mentioned?, if_neg (any_isText_iff.not.2 searchable)]
      rfl
  | tuple items =>
      rw [mentioned?, if_neg (any_isText_iff.not.2 searchable)]
      rfl
  | text content =>
      rw [mentioned?, if_neg (containsRun_iff.not.2 searchable)]
      rfl
  | _ => exact searchable.elim

/-- Searching anything else is a failure that is not about settings. -/
theorem mentioned?_of_not_isSearchable {value : Value} {name : String}
    (unsearchable : ¬ value.IsSearchable name) :
    ∃ error, value.mentioned? name = .error (.failure error) := by
  cases value with
  | table entries => exact absurd trivial unsearchable
  | list items => exact ⟨_, if_pos (any_isText_iff.2 (not_not.1 unsearchable))⟩
  | tuple items => exact ⟨_, if_pos (any_isText_iff.2 (not_not.1 unsearchable))⟩
  | text content => exact ⟨_, if_pos (containsRun_iff.2 (not_not.1 unsearchable))⟩
  | _ => exact ⟨_, rfl⟩

/-- What lies in the value that is searched for settings. -/
lemma at?_searched (document : Value) (name : String) :
    document.searched.at? [name] = document.at? ["tool", toolTable, name] := by
  rw [searched, show ["tool", toolTable, name] = ["tool", toolTable] ++ [name] from rfl, at?_append]
  cases document.at? ["tool", toolTable] <;> rfl

lemma integers_lookup {entries : List (String × Value)} {key : String} {value : Value}
    (found : entries.lookup key = some value) : ∀ n ∈ value.integers, n ∈ entryIntegers entries := by
  induction entries with
  | nil => contradiction
  | cons entry entries ih =>
      intro n mem
      rw [entryIntegers, List.mem_append]
      by_cases same : key = entry.1
      · rw [same, List.lookup_cons_self, Option.some.injEq] at found
        rw [found]
        exact .inl mem
      · rw [List.lookup_cons, beq_false_of_ne same] at found
        exact .inr (ih found n mem)

/-- What lies in a value holds no other integers than the value. -/
lemma integers_at? {keys : List String} {value inner : Value} (found : value.at? keys = some inner) :
    ∀ n ∈ inner.integers, n ∈ value.integers := by
  induction keys generalizing value with
  | nil =>
      obtain rfl := Option.some.inj found
      exact fun n mem => mem
  | cons key keys ih =>
      cases value with
      | table entries =>
          obtain ⟨value, front, behind⟩ := Option.bind_eq_some_iff.1 found
          intro n mem
          rw [integers]
          exact integers_lookup front n (ih behind n mem)
      | _ => contradiction

/-- The table under a key, or the empty table when there is none, holds what the document holds behind
this key. -/
lemma exists_subtable {document : Value} {entries : List (String × Value)} {keys : List String}
    (within : ∀ name, entries.lookup name = document.at? (keys ++ [name])) {key : String}
    (table : (document.at? (keys ++ [key])).all isTable = true) :
    ∃ entries', (Value.table entries).subtable key = .ok (.table entries') ∧
      ∀ name, entries'.lookup name = document.at? (keys ++ [key] ++ [name]) := by
  have asked : (Value.table entries).subtable key =
      .ok ((entries.lookup key).getD (.table [])) := rfl
  simp only [asked, at?_append (keys ++ [key])]
  rw [← within key] at table ⊢
  cases found : entries.lookup key with
  | none => exact ⟨[], rfl, fun name => rfl⟩
  | some value =>
      rw [found] at table
      obtain ⟨entries', rfl⟩ := exists_eq_table table
      exact ⟨entries', rfl, fun name => (at?_singleton entries' name).symm⟩

end Value

/-! ## What a setting stands for -/

/-- A setting for the identifier is put in place of another one.  It has to be the name of an identifier
that can be incremented. -/
def SetsBump (setting : Option Value) (before after : Identifier) : Prop :=
  match setting with
  | none => after = before
  | some value =>
    ∃ text, value = .text text ∧ Identifier.ofName? text = some after ∧ after ≠ .metadata

/-- A setting for the mode is put in place of another one.  It has to be exactly the name of a mode. -/
def SetsMode (setting : Option Value) (before after : SortMode) : Prop :=
  match setting with
  | none => after = before
  | some value => value = .text after.name

/-- Two settings are put in place of others, and nothing else changes. -/
structure Config.Sets (bump mode : Option Value) (before after : Config) : Prop where
  projectDirectory : after.projectDirectory = before.projectDirectory
  version : after.version = before.version
  defaultBump : SetsBump bump before.defaultBump after.defaultBump
  sortMode : SetsMode mode before.sortMode after.sortMode

section Setting

variable {source : String}

theorem bumpOfValue_eq_ok_iff {value : Value} {identifier : Identifier} :
    bumpOfValue source value = .ok identifier ↔ ∃ text, value = .text text ∧
      Identifier.ofName? text = some identifier ∧ identifier ≠ .metadata := by
  cases value with
  | text text =>
      rw [bumpOfValue, bumpOfText, Identifier.ofName]
      cases named : Identifier.ofName? text with
      | none => simp [named]
      | some meant => cases meant <;> cases identifier <;> simp [named]
  | _ => simp [bumpOfValue]

theorem bumpOfValue_eq_error {value : Value} {error : ConfigError}
    (refused : bumpOfValue source value = .error error) :
    ∃ problem, error = .setting source problem := by
  cases value with
  | text text =>
      rw [bumpOfValue, bumpOfText] at refused
      split at refused
      · next problem _ => exact ⟨problem.message, (Except.error.inj refused).symm⟩
      · exact ⟨_, (Except.error.inj refused).symm⟩
      · exact nomatch refused
  | _ => exact ⟨_, (Except.error.inj refused).symm⟩

lemma sortMode?_eq_some_iff {value : Value} {mode : SortMode} :
    value.sortMode? = some mode ↔ value = .text mode.name := by
  cases value with
  | text text =>
      rw [Value.sortMode?, SortMode.ofName?, Value.text.injEq]
      constructor
      · intro found
        have same := List.find?_some found
        exact (eq_of_beq same).symm
      · rintro rfl
        cases mode <;> rfl
  | _ => simp [Value.sortMode?]

theorem sortModeOfValue_eq_ok_iff {value : Value} {mode : SortMode} :
    sortModeOfValue source value = .ok mode ↔ value = .text mode.name := by
  rw [← sortMode?_eq_some_iff, sortModeOfValue]
  cases value.sortMode? with
  | some named => simp
  | none => cases value.literal <;> simp

/-- A refused mode is displayed, which can only fail when an integer in it is over the limit. -/
theorem sortModeOfValue_eq_error {value : Value} (writable : ∀ n ∈ value.integers, IsWritable n)
    {error : ConfigError} (refused : sortModeOfValue source value = .error error) :
    ∃ problem, error = .setting source problem := by
  obtain ⟨shown, displayed⟩ := value.exists_literal_iff.2 writable
  rw [sortModeOfValue, displayed] at refused
  cases named : value.sortMode? with
  | some mode =>
      rw [named] at refused
      contradiction
  | none =>
      rw [named] at refused
      exact ⟨_, (Except.error.inj refused).symm⟩

/-- Without a setting nothing is refused. -/
lemma exists_of_elim_eq_error {α : Type} {setting : Option Value} {before : α}
    {read : Value → Except ConfigError α} {error : ConfigError}
    (refused : setting.elim (.ok before) read = .error error) :
    ∃ value, setting = some value ∧ read value = .error error := by
  cases setting with
  | none => contradiction
  | some value => exact ⟨value, rfl, refused⟩

lemma setsBump_iff {setting : Option Value} {before after : Identifier} :
    SetsBump setting before after ↔ setting.elim (.ok before) (bumpOfValue source) = .ok after := by
  cases setting with
  | none => simp [SetsBump, eq_comm]
  | some value => exact bumpOfValue_eq_ok_iff.symm

lemma setsMode_iff {setting : Option Value} {before after : SortMode} :
    SetsMode setting before after ↔
      setting.elim (.ok before) (sortModeOfValue source) = .ok after := by
  cases setting with
  | none => simp [SetsMode, eq_comm]
  | some value => exact sortModeOfValue_eq_ok_iff.symm

end Setting

/-! ## Manifests -/

namespace Value

/-- A mode that has to be displayed can be displayed.  It is not looked at behind a refused identifier. -/
def Displayable (document : Value) : Prop :=
  ∀ identifier value, SetsBump document.bumpSetting .patch identifier →
    document.modeSetting = some value → ∀ n ∈ value.integers, IsWritable n

/-- The documents that can be read. -/
structure IsReadable (document : Value) : Prop where
  shape : document.HasShape
  displayable : document.Displayable

lemma IsRegular.isReadable {document : Value} (regular : document.IsRegular) : document.IsReadable := by
  refine ⟨regular.hasShape, fun _ _ _ found n mem => ?_⟩
  exact regular.writable n (integers_at? found n mem)

end Value

namespace Config

variable {directory : Option Path} {document : Value}

lemma documentBump_eq {tool : Value} (searchable : tool.IsSearchable "default-bump") :
    documentBump tool = (tool.at? ["default-bump"]).elim (.ok .patch)
      (bumpOfValue (documentSource "default-bump")) := by
  rw [documentBump, Value.mentioned?_of_isSearchable searchable, ok_bind]
  cases tool.at? ["default-bump"] <;> rfl

lemma documentSortMode_eq {tool : Value} (searchable : tool.IsSearchable "sort-mode") :
    documentSortMode tool = (tool.at? ["sort-mode"]).elim (.ok .strict)
      (sortModeOfValue (documentSource "sort-mode")) := by
  rw [documentSortMode, Value.mentioned?_of_isSearchable searchable, ok_bind]
  cases tool.at? ["sort-mode"] <;> rfl

/-- The settings of a manifest that sets neither an identifier nor a mode. -/
def declared (directory : Option Path) (document : Value) : Config where
  projectDirectory := directory
  version := (document.at? ["project", "version"]).getD (.text "")

/-- The version that a regular document declares can be displayed, whatever it is. -/
lemma writable_of_mem_declared (regular : document.IsRegular) :
    ∀ n ∈ (declared directory document).version.integers, IsWritable n := by
  intro n mem
  rw [declared] at mem
  cases found : document.at? ["project", "version"] with
  | none => simp [found, Value.integers] at mem
  | some value =>
      rw [found, Option.getD_some] at mem
      exact regular.writable n (Value.integers_at? found n mem)

/-- When the project and the tools are tables, what is left is to look the two settings up. -/
theorem ofDocument_eq_of_tables (top : document.isTable = true)
    (project : ∀ value, document.at? ["project"] = some value → value.isTable = true)
    (tools : ∀ value, document.at? ["tool"] = some value → value.isTable = true) :
    ofDocument document directory = do
      let defaultBump ← documentBump document.searched
      let sortMode ← documentSortMode document.searched
      return { declared directory document with defaultBump, sortMode } := by
  obtain ⟨entries, rfl⟩ := Value.exists_eq_table top
  have within (name : String) :
      entries.lookup name = (Value.table entries).at? ([] ++ [name]) := by simp
  obtain ⟨projectEntries, readProject, withinProject⟩ :=
    Value.exists_subtable within ((Option.all_eq_true _ _).2 project)
  obtain ⟨toolsEntries, readTools, withinTools⟩ :=
    Value.exists_subtable within ((Option.all_eq_true _ _).2 tools)
  have readTool : (Value.table toolsEntries).subtable toolTable =
      .ok (Value.table entries).searched := by
    rw [Value.subtable, Value.entry?_table, ok_bind, withinTools]
    rfl
  have readVersion : Value.entry? "version" (.table projectEntries) =
      .ok ((Value.table entries).at? ["project", "version"]) := by
    rw [Value.entry?_table, withinProject]
    rfl
  simp only [ofDocument, readProject, readTools, readTool, readVersion, ok_bind]
  rfl

/-- A manifest of the right shape is read by looking three values up. -/
theorem ofDocument_eq (shape : document.HasShape) :
    ofDocument document directory = do
      let defaultBump ← document.bumpSetting.elim (.ok .patch)
        (bumpOfValue (documentSource "default-bump"))
      let sortMode ← document.modeSetting.elim (.ok .strict)
        (sortModeOfValue (documentSource "sort-mode"))
      return { declared directory document with defaultBump, sortMode } := by
  rw [ofDocument_eq_of_tables shape.top shape.project shape.tools, documentBump_eq shape.bump,
    documentSortMode_eq shape.mode, Value.at?_searched, Value.at?_searched]
  rfl

/-- **A manifest puts its settings in place of the usual ones.** -/
theorem ofDocument_eq_ok_iff (shape : document.HasShape) {config : Config} :
    ofDocument document directory = .ok config ↔
      Sets document.bumpSetting document.modeSetting (declared directory document) config := by
  rw [ofDocument_eq shape]
  simp only [bind_eq_ok_iff, ← setsBump_iff, ← setsMode_iff]
  constructor
  · rintro ⟨defaultBump, bump, sortMode, mode, made⟩
    obtain rfl := Except.ok.inj made
    exact ⟨rfl, rfl, bump, mode⟩
  · intro sets
    refine ⟨config.defaultBump, sets.defaultBump, config.sortMode, sets.sortMode, ?_⟩
    rw [← sets.projectDirectory, ← sets.version]
    rfl

/-- A manifest that can be read is refused for a setting. -/
theorem ofDocument_eq_error (readable : document.IsReadable) {error : ConfigError}
    (refused : ofDocument document directory = .error error) :
    ∃ source problem, error = .setting source problem := by
  rw [ofDocument_eq readable.shape] at refused
  obtain refused | ⟨defaultBump, bump, refused⟩ := bind_eq_error_iff.1 refused
  · obtain ⟨value, -, refused⟩ := exists_of_elim_eq_error refused
    exact ⟨_, bumpOfValue_eq_error refused⟩
  · obtain refused | ⟨sortMode, -, made⟩ := bind_eq_error_iff.1 refused
    · obtain ⟨value, found, refused⟩ := exists_of_elim_eq_error refused
      have inside := readable.displayable defaultBump value (setsBump_iff.2 bump) found
      exact ⟨_, sortModeOfValue_eq_error inside refused⟩
    · exact nomatch made

end Config

/-! ## Environments -/

namespace Environment

/-- The setting for the identifier in an environment. -/
def bumpSetting (environment : Environment) : Option Value :=
  (environment.lookup? "SEMVER_DEFAULT_BUMP").map .text

/-- The setting for the mode in an environment.  It is read in lower case. -/
def modeSetting (environment : Environment) : Option Value :=
  (environment.lookup? "SEMVER_SORT_MODE").map fun text => .text (lower text)

lemma map_defaultBump (environment : Environment) (before : Identifier) :
    environment.defaultBump.map (·.getD before) =
      environment.bumpSetting.elim (.ok before) (bumpOfValue "SEMVER_DEFAULT_BUMP") := by
  rw [defaultBump, bumpSetting]
  cases environment.lookup? "SEMVER_DEFAULT_BUMP" with
  | none => rfl
  | some text =>
      simp only [Option.map_some, Option.elim_some, bumpOfValue]
      cases bumpOfText "SEMVER_DEFAULT_BUMP" text <;> rfl

lemma map_sortMode (environment : Environment) (before : SortMode) :
    environment.sortMode.map (·.getD before) =
      environment.modeSetting.elim (.ok before) (sortModeOfValue "SEMVER_SORT_MODE") := by
  rw [sortMode, modeSetting]
  cases environment.lookup? "SEMVER_SORT_MODE" with
  | none => rfl
  | some text =>
      simp only [Option.map_some, Option.elim_some]
      cases sortModeOfValue "SEMVER_SORT_MODE" (.text (lower text)) <;> rfl

end Environment

namespace Config

variable {config after : Config} {environment : Environment}

/-- An environment is read by looking two values up, and the first one counts although the second one
may be refused. -/
theorem override_eq : config.override environment =
    match environment.bumpSetting.elim (.ok config.defaultBump)
      (bumpOfValue "SEMVER_DEFAULT_BUMP") with
    | .error error => (config, .error error)
    | .ok defaultBump =>
      match environment.modeSetting.elim (.ok config.sortMode)
        (sortModeOfValue "SEMVER_SORT_MODE") with
      | .error error => ({ config with defaultBump }, .error error)
      | .ok sortMode => ({ config with defaultBump, sortMode }, .ok ()) := by
  rw [override, ← environment.map_defaultBump, ← environment.map_sortMode]
  cases environment.defaultBump with
  | error error => rfl
  | ok defaultBump => cases environment.sortMode <;> rfl

/-- **An environment puts its settings in place of the settings before.** -/
theorem override_eq_ok_iff : config.override environment = (after, .ok ()) ↔
    config.Sets environment.bumpSetting environment.modeSetting after := by
  rw [override_eq]
  constructor
  · intro overridden
    split at overridden
    · exact nomatch overridden
    · next defaultBump bump =>
        split at overridden
        · exact nomatch overridden
        · next sortMode mode =>
            obtain ⟨rfl, -⟩ := Prod.mk.inj overridden
            exact ⟨rfl, rfl, setsBump_iff.2 bump, setsMode_iff.2 mode⟩
  · intro sets
    rw [setsBump_iff.1 sets.defaultBump, setsMode_iff.1 sets.sortMode]
    rw [← sets.projectDirectory, ← sets.version]

/-- **A refused environment may have set its identifier, but not its mode.**  It is refused for one of the
two settings. -/
theorem override_outcomes (config : Config) (environment : Environment) :
    ((config.override environment).2 = .ok () ∧
      config.Sets environment.bumpSetting environment.modeSetting (config.override environment).1) ∨
    (∃ source problem, (config.override environment).2 = .error (.setting source problem)) ∧
      (config.Sets none none (config.override environment).1 ∨
        config.Sets environment.bumpSetting none (config.override environment).1) := by
  rw [override_eq]
  split
  · next error bump =>
      obtain ⟨value, -, refused⟩ := exists_of_elim_eq_error bump
      obtain ⟨problem, rfl⟩ := bumpOfValue_eq_error refused
      exact .inr ⟨⟨_, problem, rfl⟩, .inl ⟨rfl, rfl, rfl, rfl⟩⟩
  · next defaultBump bump =>
      split
      · next error mode =>
          obtain ⟨value, found, refused⟩ := exists_of_elim_eq_error mode
          -- a variable is a text, and there is no integer in it
          obtain ⟨text, -, rfl⟩ := Option.map_eq_some_iff.1 found
          obtain ⟨problem, rfl⟩ := sortModeOfValue_eq_error (by simp [Value.integers]) refused
          exact .inr ⟨⟨_, problem, rfl⟩, .inr ⟨rfl, rfl, setsBump_iff.2 bump, rfl⟩⟩
      · next sortMode mode => exact .inl ⟨rfl, rfl, rfl, setsBump_iff.2 bump, setsMode_iff.2 mode⟩

lemma overridden_eq : config.overridden environment =
    (config.override environment).2.map fun () => (config.override environment).1 := rfl

/-- Settings that are overridden without a refusal. -/
theorem overridden_eq_ok_iff : config.overridden environment = .ok after ↔
    config.Sets environment.bumpSetting environment.modeSetting after := by
  rw [← override_eq_ok_iff, overridden_eq, Prod.ext_iff]
  cases (config.override environment).2 <;> simp [Except.map]

/-- An environment is refused for a setting. -/
theorem overridden_eq_error {error : ConfigError}
    (refused : config.overridden environment = .error error) :
    ∃ source problem, error = .setting source problem := by
  rw [overridden_eq] at refused
  obtain ⟨accepted, -⟩ | ⟨⟨source, problem, refusal⟩, -⟩ := config.override_outcomes environment
  · rw [accepted] at refused
    exact nomatch refused
  · rw [refusal] at refused
    exact ⟨source, problem, (Except.error.inj refused).symm⟩

end Config

end SemanticVersion
