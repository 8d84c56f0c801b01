import Mathlib.Data.List.Induction
import SemanticVersion.Proofs.Config.Reading

/-!
# The last environment wins

When several environments override settings one after the other, each of the two settings is the one that
the last environment wrote, and the one from before if none of them wrote it.  What counts as writing is
not the same for the two settings, because an environment is read from its identifier to its mode and
reading stops at a refusal.

**An identifier is written as soon as it is accepted,** even if the mode behind it is refused.

**A mode is written only if nothing in front of it is refused,** so an accepted mode is lost behind a
refused identifier.

* `Written`, `LastWritten` — a value after one event and after several, of which each may write it.
* `LastWritten.concat` — one more event.
* `Environment.Names`, `Environment.Refuses` — what an environment says by a variable.
* `elim_lookup?_iff_written` — reading a variable in these terms, and `setsBump_iff_written` and
  `setsMode_iff_written`, the two settings.
* `Config.override_cases` — what one environment can do, and `Config.overridden_override`,
  `Config.override_refused_iff` and `Config.override_override`, what follows.
* `Config.overriddenByAll_runOverrides` — any number of environments.
* `last_environment_wins` — both together.
-/

namespace SemanticVersion

/-! ## Values that events write -/

section Written

variable {ε α : Type}

/-- A value after an event: the one that the event writes, or the one from before if it writes none. -/
def Written (writes : α → Prop) (before after : α) : Prop :=
  writes after ∨ (∀ value, ¬ writes value) ∧ after = before

/-- A value after several events: the one that the last event that writes any writes, or the one from
before if none does. -/
def LastWritten (writes : ε → α → Prop) (events : List ε) (before after : α) : Prop :=
  (∃ earlier last later, events = earlier ++ last :: later ∧ writes last after ∧
    ∀ event ∈ later, ∀ value, ¬ writes event value) ∨
  (∀ event ∈ events, ∀ value, ¬ writes event value) ∧ after = before

lemma exists_written (writes : α → Prop) (before : α) : ∃ after, Written writes before after := by
  by_cases some : ∃ value, writes value
  · obtain ⟨value, written⟩ := some
    exact ⟨value, .inl written⟩
  · exact ⟨before, .inr ⟨not_exists.1 some, rfl⟩⟩

/-- The same event once more writes nothing new. -/
lemma Written.again {writes : α → Prop} (unique : ∀ a b, writes a → writes b → a = b)
    {before middle after : α} (first : Written writes before middle)
    (second : Written writes middle after) : after = middle := by
  obtain second | ⟨-, same⟩ := second
  · obtain first | ⟨none, -⟩ := first
    · exact unique after middle second first
    · exact absurd second (none after)
  · exact same

variable {writes : ε → α → Prop}

lemma lastWritten_nil (value : α) : LastWritten writes [] value value :=
  .inr ⟨by simp, rfl⟩

/-- One more event decides the value if it writes any. -/
theorem LastWritten.concat {events : List ε} {event : ε} {before middle after : α}
    (earlier : LastWritten writes events before middle)
    (step : Written (writes event) middle after) :
    LastWritten writes (events ++ [event]) before after := by
  obtain written | ⟨silent, rfl⟩ := step
  · exact .inl ⟨events, event, [], rfl, written, by simp⟩
  · obtain ⟨front, last, back, rfl, written, later⟩ | ⟨none, same⟩ := earlier
    · refine .inl ⟨front, last, back ++ [event], by simp, written, ?_⟩
      rw [List.forall_mem_append, List.forall_mem_singleton]
      exact ⟨later, silent⟩
    · refine .inr ⟨?_, same⟩
      rw [List.forall_mem_append, List.forall_mem_singleton]
      exact ⟨none, silent⟩

end Written

/-! ## What an environment says -/

theorem Identifier.ofName?_eq_some_iff {text : String} {identifier : Identifier} :
    Identifier.ofName? text = some identifier ↔ identifier.name = lower (trim isBlank text) := by
  rw [Identifier.ofName?]
  generalize lower (trim isBlank text) = name
  constructor
  · intro found
    have same := List.find?_some found
    exact eq_of_beq same
  · rintro rfl
    cases identifier <;> rfl

namespace Environment

/-- A variable is given when it is there and not empty. -/
def Gives (environment : Environment) (name text : String) : Prop :=
  environment.lookup name = some text ∧ text ≠ ""

/-- An environment names a value by a variable whose text means this value. -/
def Names {α : Type} (environment : Environment) (name : String) (means : String → α → Prop)
    (value : α) : Prop :=
  ∃ text, environment.Gives name text ∧ means text value

/-- An environment refuses a variable that is given but names nothing. -/
def Refuses {α : Type} (environment : Environment) (name : String) (means : String → α → Prop) :
    Prop :=
  (∃ text, environment.Gives name text) ∧ ∀ value, ¬ environment.Names name means value

/-- What a text means as the identifier to increment by default, whatever the case of its letters and the
blanks around it. -/
def MeansBump (text : String) (identifier : Identifier) : Prop :=
  identifier.name = lower (trim isBlank text) ∧ identifier ≠ .metadata

/-- What a text means as a mode, whatever the case of its letters. -/
def MeansMode (text : String) (mode : SortMode) : Prop :=
  mode.name = lower text

/-- The identifier that an environment names. -/
def NamesBump (environment : Environment) (identifier : Identifier) : Prop :=
  environment.Names "SEMVER_DEFAULT_BUMP" MeansBump identifier

/-- The environments that are refused for their identifier. -/
def RefusesBump (environment : Environment) : Prop :=
  environment.Refuses "SEMVER_DEFAULT_BUMP" MeansBump

/-- The mode that an environment names. -/
def NamesMode (environment : Environment) (mode : SortMode) : Prop :=
  environment.Names "SEMVER_SORT_MODE" MeansMode mode

/-- The environments that are refused for their mode, unless they are refused for their identifier. -/
def RefusesMode (environment : Environment) : Prop :=
  environment.Refuses "SEMVER_SORT_MODE" MeansMode

/-- An environment writes the mode that it names, if the identifier in front of it is not refused. -/
def WritesMode (environment : Environment) (mode : SortMode) : Prop :=
  ¬ environment.RefusesBump ∧ environment.NamesMode mode

variable {α : Type} {environment : Environment} {name : String} {means : String → α → Prop}

lemma lookup?_eq_some_iff {text : String} :
    environment.lookup? name = some text ↔ environment.Gives name text := by
  rw [lookup?, Gives, Option.filter_eq_some_iff]
  simp

/-- An environment names one value at most, if a text does. -/
lemma Names.unique (single : ∀ text a b, means text a → means text b → a = b) {a b : α}
    (first : environment.Names name means a) (second : environment.Names name means b) : a = b := by
  obtain ⟨text, given, meant⟩ := first
  obtain ⟨_, given', meant'⟩ := second
  obtain rfl := Option.some.inj (given.1.symm.trans given'.1)
  exact single text a b meant meant'

lemma NamesBump.unique {a b : Identifier} (first : environment.NamesBump a)
    (second : environment.NamesBump b) : a = b := by
  refine Names.unique (fun text a b meant meant' => ?_) first second
  have same := Identifier.ofName?_eq_some_iff.2 meant.1
  rw [Identifier.ofName?_eq_some_iff.2 meant'.1] at same
  exact (Option.some.inj same).symm

lemma NamesMode.unique {a b : SortMode} (first : environment.NamesMode a)
    (second : environment.NamesMode b) : a = b := by
  refine Names.unique (fun text a b meant meant' => ?_) first second
  have same := sortMode?_eq_some_iff.2 (congrArg Value.text (meant.trans meant'.symm))
  rw [sortMode?_eq_some_iff.2 rfl] at same
  exact Option.some.inj same

/-- A variable that is not refused writes the value that it names, if it is given at all. -/
theorem elim_lookup?_iff_written {before after : α} :
    (environment.lookup? name).elim (after = before) (means · after) ↔
      ¬ environment.Refuses name means ∧ Written (environment.Names name means) before after := by
  cases given : environment.lookup? name with
  | none =>
      have absent (text : String) : ¬ environment.Gives name text := by
        simp [← lookup?_eq_some_iff, given]
      simp [Refuses, Written, Names, absent]
  | some text =>
      have names (value : α) : environment.Names name means value ↔ means text value := by
        simp [Names, ← lookup?_eq_some_iff, given]
      rw [Option.elim_some, ← names]
      constructor
      · intro named
        exact ⟨fun refused => refused.2 after named, .inl named⟩
      · rintro ⟨accepted, named | ⟨none, -⟩⟩
        · exact named
        · exact absurd ⟨⟨text, lookup?_eq_some_iff.1 given⟩, none⟩ accepted

/-- The identifier that an environment puts in place of another one. -/
theorem setsBump_iff_written {before after : Identifier} :
    SetsBump environment.bumpSetting before after ↔
      ¬ environment.RefusesBump ∧ Written environment.NamesBump before after := by
  refine Iff.trans ?_ elim_lookup?_iff_written
  rw [bumpSetting]
  cases environment.lookup? "SEMVER_DEFAULT_BUMP" with
  | none => rfl
  | some text => simp [SetsBump, MeansBump, Identifier.ofName?_eq_some_iff]

/-- The mode that an environment puts in place of another one. -/
theorem setsMode_iff_written {before after : SortMode} :
    SetsMode environment.modeSetting before after ↔
      ¬ environment.RefusesMode ∧ Written environment.NamesMode before after := by
  refine Iff.trans ?_ elim_lookup?_iff_written
  rw [modeSetting]
  cases environment.lookup? "SEMVER_SORT_MODE" with
  | none => rfl
  | some text => simp [SetsMode, MeansMode, eq_comm]

end Environment

/-! ## One environment -/

attribute [ext] Config

section Override

variable {environment : Environment}

/-- What is not read is refused, and for a setting if all refusals are. -/
lemma exists_refusal {α : Type} {setting : Option Value} {read : Value → Except ConfigError α}
    {before : α} {source : String} (unread : ∀ after, setting.elim (.ok before) read ≠ .ok after)
    (refusal : ∀ value error, setting = some value → read value = .error error →
      ∃ problem, error = .setting source problem) :
    ∃ problem, setting.elim (.ok before) read = .error (.setting source problem) := by
  cases result : setting.elim (.ok before) read with
  | ok after => exact absurd result (unread after)
  | error error =>
      obtain ⟨value, found, failed⟩ := exists_of_elim_eq_error result
      obtain ⟨problem, rfl⟩ := refusal value error found failed
      exact ⟨problem, rfl⟩

lemma exists_bump_refusal (refused : environment.RefusesBump) (before : Identifier) (source : String) :
    ∃ problem, environment.bumpSetting.elim (.ok before) (bumpOfValue source) =
      .error (.setting source problem) := by
  refine exists_refusal (fun after read => ?_) fun value error found failed =>
    bumpOfValue_eq_error failed
  exact (Environment.setsBump_iff_written.1 (setsBump_iff.2 read)).1 refused

lemma exists_mode_refusal (refused : environment.RefusesMode) (before : SortMode) (source : String) :
    ∃ problem, environment.modeSetting.elim (.ok before) (sortModeOfValue source) =
      .error (.setting source problem) := by
  refine exists_refusal (fun after read => ?_) fun value error found failed => ?_
  · exact (Environment.setsMode_iff_written.1 (setsMode_iff.2 read)).1 refused
  · -- a variable is a text, and there is no integer in it
    obtain ⟨text, -, rfl⟩ := Option.map_eq_some_iff.1 found
    exact sortModeOfValue_eq_error (by simp [Value.integers]) failed

/-- **What an environment does to settings.**  A refused identifier ends it before anything is written,
and a refused mode ends it with the identifier written. -/
theorem Config.override_cases (config : Config) (environment : Environment) :
    (environment.RefusesBump ∧
      ∃ source problem, config.override environment = (config, .error (.setting source problem))) ∨
    (¬ environment.RefusesBump ∧ environment.RefusesMode ∧
      ∃ defaultBump source problem, Written environment.NamesBump config.defaultBump defaultBump ∧
        config.override environment =
          ({ config with defaultBump }, .error (.setting source problem))) ∨
    (¬ environment.RefusesBump ∧ ¬ environment.RefusesMode ∧
      ∃ defaultBump sortMode, Written environment.NamesBump config.defaultBump defaultBump ∧
        Written environment.NamesMode config.sortMode sortMode ∧
        config.override environment = ({ config with defaultBump, sortMode }, .ok ())) := by
  rw [override_eq]
  by_cases refused : environment.RefusesBump
  · obtain ⟨problem, read⟩ := exists_bump_refusal refused config.defaultBump "SEMVER_DEFAULT_BUMP"
    rw [read]
    exact .inl ⟨refused, _, problem, rfl⟩
  obtain ⟨defaultBump, bump⟩ := exists_written environment.NamesBump config.defaultBump
  rw [setsBump_iff.1 (Environment.setsBump_iff_written.2 ⟨refused, bump⟩)]
  by_cases refused' : environment.RefusesMode
  · obtain ⟨problem, read⟩ := exists_mode_refusal refused' config.sortMode "SEMVER_SORT_MODE"
    rw [read]
    exact .inr (.inl ⟨refused, refused', defaultBump, _, problem, bump, rfl⟩)
  obtain ⟨sortMode, mode⟩ := exists_written environment.NamesMode config.sortMode
  rw [setsMode_iff.1 (Environment.setsMode_iff_written.2 ⟨refused', mode⟩)]
  exact .inr (.inr ⟨refused, refused', defaultBump, sortMode, bump, mode, rfl⟩)

/-- The settings after an environment, whether or not it was refused. -/
structure Config.Overridden (environment : Environment) (before after : Config) : Prop where
  projectDirectory : after.projectDirectory = before.projectDirectory
  version : after.version = before.version
  defaultBump : Written environment.NamesBump before.defaultBump after.defaultBump
  sortMode : Written environment.WritesMode before.sortMode after.sortMode

/-- A refused mode counts as not written, and so does a mode behind a refused identifier. -/
theorem Config.overridden_override (config : Config) (environment : Environment) :
    config.Overridden environment (config.override environment).1 := by
  obtain ⟨refused, _, _, done⟩ | ⟨-, refused, _, _, _, bump, done⟩ |
    ⟨accepted, -, _, _, bump, mode, done⟩ := config.override_cases environment
  · rw [done]
    exact ⟨rfl, rfl, .inr ⟨refused.2, rfl⟩, .inr ⟨fun mode writes => writes.1 refused, rfl⟩⟩
  · rw [done]
    exact ⟨rfl, rfl, bump, .inr ⟨fun mode writes => refused.2 mode writes.2, rfl⟩⟩
  · rw [done]
    refine ⟨rfl, rfl, bump, ?_⟩
    obtain named | ⟨none, same⟩ := mode
    · exact .inl ⟨accepted, named⟩
    · exact .inr ⟨fun mode writes => none mode writes.2, same⟩

/-- An environment is refused exactly when one of its two variables is. -/
theorem Config.override_refused_iff (config : Config) (environment : Environment) :
    ((config.override environment).2 = .ok () ↔
      ¬ (environment.RefusesBump ∨ environment.RefusesMode)) ∧
    ((∃ source problem, (config.override environment).2 = .error (.setting source problem)) ↔
      environment.RefusesBump ∨ environment.RefusesMode) := by
  obtain ⟨refused, _, _, done⟩ | ⟨-, refused, _, _, _, -, done⟩ |
    ⟨accepted, accepted', _, _, -, -, done⟩ := config.override_cases environment
  · simp [done, refused]
  · simp [done, refused]
  · simp [done, accepted, accepted']

/-- The same environment once more changes nothing. -/
theorem Config.override_override (config : Config) (environment : Environment) :
    ((config.override environment).1.override environment).1 = (config.override environment).1 := by
  have first := config.overridden_override environment
  have second := (config.override environment).1.overridden_override environment
  have bump := first.defaultBump.again (fun _ _ => Environment.NamesBump.unique) second.defaultBump
  have mode := first.sortMode.again (fun _ _ a b => a.2.unique b.2) second.sortMode
  exact Config.ext second.projectDirectory second.version bump mode

end Override

/-! ## Any number of environments -/

/-- The settings after several environments, whether or not they were refused. -/
structure Config.OverriddenByAll (environments : List Environment) (before after : Config) : Prop where
  projectDirectory : after.projectDirectory = before.projectDirectory
  version : after.version = before.version
  defaultBump : LastWritten Environment.NamesBump environments before.defaultBump after.defaultBump
  sortMode : LastWritten Environment.WritesMode environments before.sortMode after.sortMode

theorem Config.overriddenByAll_runOverrides (config : Config) (environments : List Environment) :
    config.OverriddenByAll environments (config.runOverrides environments) := by
  induction environments using List.reverseRecOn with
  | nil => exact ⟨rfl, rfl, lastWritten_nil _, lastWritten_nil _⟩
  | append_singleton environments environment ih =>
      have step := (config.runOverrides environments).overridden_override environment
      have last : config.runOverrides (environments ++ [environment]) =
          ((config.runOverrides environments).override environment).1 := by
        simp [runOverrides]
      rw [last]
      exact ⟨step.projectDirectory.trans ih.projectDirectory, step.version.trans ih.version,
        ih.defaultBump.concat step.defaultBump, ih.sortMode.concat step.sortMode⟩

/-- **The last environment that writes a setting decides it,** and the setting from before stays when none
does.  An environment writes the identifier that it names, also when it is refused for its mode; it writes
the mode that it names unless it is refused for its identifier; and it is refused exactly when one of its
variables is given but names nothing.  The same environment once more changes nothing. -/
theorem last_environment_wins (config : Config) (environments : List Environment) :
    let after := config.runOverrides environments
    LastWritten Environment.NamesBump environments config.defaultBump after.defaultBump ∧
    LastWritten Environment.WritesMode environments config.sortMode after.sortMode ∧
    after.version = config.version ∧ after.projectDirectory = config.projectDirectory ∧
    ∀ environment,
      ((after.override environment).2 = .ok () ↔
        ¬ (environment.RefusesBump ∨ environment.RefusesMode)) ∧
      ((∃ source problem, (after.override environment).2 = .error (.setting source problem)) ↔
        environment.RefusesBump ∨ environment.RefusesMode) ∧
      ((after.override environment).1.override environment).1 = (after.override environment).1 := by
  intro after
  have all := config.overriddenByAll_runOverrides environments
  refine ⟨all.defaultBump, all.sortMode, all.version, all.projectDirectory, fun environment => ?_⟩
  obtain ⟨accepted, refused⟩ := after.override_refused_iff environment
  exact ⟨accepted, refused, after.override_override environment⟩

/-- The first environment is refused for its mode and has written its identifier.  The second one is
refused for its identifier, and its mode is lost. -/
example :
    let after := Config.runOverrides {}
      [[("SEMVER_DEFAULT_BUMP", " Minor"), ("SEMVER_SORT_MODE", "loose")],
       [("SEMVER_DEFAULT_BUMP", "huge"), ("SEMVER_SORT_MODE", "Precedence")]]
    after.defaultBump = .minor ∧ after.sortMode = .strict := by
  decide +kernel

end SemanticVersion
