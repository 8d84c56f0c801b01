import SemanticVersion.Proofs.Config.Reading

/-!
# Settings stay valid

Whatever manifests and environments settings go through, the default identifier can be incremented and
the mode has one of the two names.  A step that is refused is no exception: a manifest replaces all
settings or none, and an environment that is refused half way has put an identifier in place that was
accepted before the refusal.

* `Config.Valid` — the invariant.
* `Sets.valid` — settings put in place of valid settings are valid.
* `valid_update`, `valid_runUpdates` — a step and any number of steps keep the invariant.
* `update_outcome`, `update_document`, `update_environment` — what a step does.
* `updates_keep_settings_valid` — the invariant along a run, and what each step does.
-/

namespace SemanticVersion

namespace Config

/-- The settings that commands can work with. -/
structure Valid (config : Config) : Prop where
  defaultBump : config.defaultBump ∈ [Identifier.major, .minor, .patch, .prerelease]
  sortMode : config.sortMode.name ∈ ["strict", "precedence"]

lemma valid_iff {config : Config} : config.Valid ↔ config.defaultBump ≠ .metadata := by
  have named : config.sortMode.name ∈ ["strict", "precedence"] := by
    cases config.sortMode <;> simp [SortMode.name]
  constructor
  · intro valid metadata
    have listed := valid.defaultBump
    simp [metadata] at listed
  · intro usable
    refine ⟨?_, named⟩
    cases bump : config.defaultBump with
    | metadata => contradiction
    | _ => simp

/-- The usual settings are valid. -/
lemma valid_declared (directory : Option Path) (document : Value) :
    (declared directory document).Valid := by
  rw [valid_iff]
  intro metadata
  contradiction

lemma Sets.valid {bump mode : Option Value} {before after : Config}
    (sets : before.Sets bump mode after) (valid : before.Valid) : after.Valid := by
  have setting := sets.defaultBump
  rw [valid_iff] at valid ⊢
  cases bump with
  | none =>
      rw [SetsBump] at setting
      rwa [setting]
  | some value =>
      obtain ⟨text, -, -, usable⟩ := setting
      exact usable

/-! ## Steps -/

/-- The steps that can be made: regular manifests, and any environments. -/
def Update.Admissible : Update → Prop
  | .document manifest => manifest.IsRegular
  | .environment _ => True

variable {config : Config}

/-- A step keeps the invariant, whether or not it is refused. -/
theorem valid_update (valid : config.Valid) {step : Update} (admissible : step.Admissible) :
    (config.update step).1.Valid := by
  cases step with
  | document document =>
      rw [update]
      split
      · next replaced read =>
          exact ((ofDocument_eq_ok_iff admissible.hasShape).1 read).valid (valid_declared none document)
      · exact valid
  | environment environment =>
      obtain ⟨-, sets⟩ | ⟨-, sets | sets⟩ := config.override_outcomes environment
      · exact sets.valid valid
      · exact sets.valid valid
      · exact sets.valid valid

/-- Any number of steps keep the invariant. -/
theorem valid_runUpdates (valid : config.Valid) {updates : List Update}
    (admissible : ∀ step ∈ updates, step.Admissible) : (config.runUpdates updates).Valid := by
  induction updates generalizing config with
  | nil => exact valid
  | cons step updates ih =>
      rw [List.forall_mem_cons] at admissible
      exact ih (valid_update valid admissible.1) admissible.2

/-- The run goes on with a step. -/
lemma runUpdates_append (updates : List Update) (step : Update) :
    config.runUpdates (updates ++ [step]) = ((config.runUpdates updates).update step).1 := by
  simp [runUpdates]

/-- A step is refused for a setting, if it is refused at all. -/
theorem update_outcome (config : Config) {step : Update} (admissible : step.Admissible) :
    (config.update step).2 = .ok () ∨
      ∃ source problem, (config.update step).2 = .error (.setting source problem) := by
  cases step with
  | document document =>
      rw [update]
      split
      · exact .inl rfl
      · next error refused =>
          obtain ⟨source, problem, rfl⟩ := ofDocument_eq_error admissible.isReadable refused
          exact .inr ⟨source, problem, rfl⟩
  | environment environment =>
      obtain ⟨accepted, -⟩ | ⟨refused, -⟩ := config.override_outcomes environment
      · exact .inl accepted
      · exact .inr refused

/-- A manifest puts its settings in place of the usual ones, or it is refused and changes nothing. -/
theorem update_document (config : Config) {document : Value} (tables : document.hasTables = true) :
    ((config.update (.document document)).2 = .ok () →
      (declared none document).Sets document.bumpSetting document.modeSetting
        (config.update (.document document)).1) ∧
    ((config.update (.document document)).2 ≠ .ok () →
      (config.update (.document document)).1 = config) := by
  rw [update]
  split
  · next replaced read =>
      refine ⟨fun _ => ?_, fun refused => absurd rfl refused⟩
      exact (ofDocument_eq_ok_iff (Value.hasShape_of_hasTables tables)).1 read
  · exact ⟨nofun, fun _ => rfl⟩

/-- An environment puts its settings in place of the settings before, and nothing else changes even when
it is refused. -/
theorem update_environment (config : Config) (environment : Environment) :
    ((config.update (.environment environment)).2 = .ok () →
      config.Sets environment.bumpSetting environment.modeSetting
        (config.update (.environment environment)).1) ∧
    (config.update (.environment environment)).1.version = config.version ∧
    (config.update (.environment environment)).1.projectDirectory = config.projectDirectory := by
  rw [update]
  obtain ⟨-, sets⟩ | ⟨⟨_, _, refused⟩, sets⟩ := config.override_outcomes environment
  · exact ⟨fun _ => sets, sets.version, sets.projectDirectory⟩
  · rw [refused]
    refine ⟨nofun, ?_⟩
    obtain sets | sets := sets
    · exact ⟨sets.version, sets.projectDirectory⟩
    · exact ⟨sets.version, sets.projectDirectory⟩

end Config

/-- **Settings stay valid.**  Whatever steps were made from the usual settings, the settings are valid
before and after the next step.  It succeeds or is refused for a setting.  When it succeeds, the settings
are those of the manifest, put in place of the usual ones, or those of the environment, put in place of
the settings before.  A refused manifest changes nothing, and no environment changes the version or the
directory. -/
theorem updates_keep_settings_valid (updates : List Config.Update) (step : Config.Update)
    (admissible : ∀ update ∈ updates ++ [step], update.Admissible) :
    let before := Config.runUpdates {} updates
    let after := Config.runUpdates {} (updates ++ [step])
    let outcome := (before.update step).2
    before.Valid ∧ after.Valid ∧
    (outcome = .ok () ∨ ∃ source problem, outcome = .error (.setting source problem)) ∧
    match step with
    | .document document =>
      (outcome = .ok () →
        (Config.declared none document).Sets document.bumpSetting document.modeSetting after) ∧
      (outcome ≠ .ok () → after = before)
    | .environment environment =>
      (outcome = .ok () → before.Sets environment.bumpSetting environment.modeSetting after) ∧
      after.version = before.version ∧ after.projectDirectory = before.projectDirectory := by
  intro before after outcome
  rw [List.forall_mem_append, List.forall_mem_singleton] at admissible
  obtain ⟨earlier, admissible⟩ := admissible
  have valid : before.Valid := Config.valid_runUpdates (Config.valid_iff.2 (by decide)) earlier
  have made : after = (before.update step).1 := Config.runUpdates_append updates step
  refine ⟨valid, ?_, before.update_outcome admissible, ?_⟩
  · rw [made]
    exact Config.valid_update valid admissible
  · rw [made]
    cases step with
    | document document => exact before.update_document admissible.tables
    | environment environment => exact before.update_environment environment

/-- An environment that is refused for its mode has set its identifier, which a refused manifest leaves
as it is. -/
theorem settings_after_refusals :
    let refused := Config.Update.environment
      [("SEMVER_DEFAULT_BUMP", " Major"), ("SEMVER_SORT_MODE", "loose")]
    let manifest := Config.Update.document
      (.table [("tool", .table [(toolTable, .table [("sort-mode", .list [.int 1])])])])
    (∀ step ∈ [refused, manifest], step.Admissible) ∧
    (Config.runUpdates {} [refused, manifest]).Valid ∧
    (Config.runUpdates {} [refused, manifest]).defaultBump = .major := by
  intro refused manifest
  have admissible : ∀ step ∈ [refused] ++ [manifest], step.Admissible := by
    intro step mem
    obtain rfl | rfl := List.mem_pair.1 mem
    · trivial
    · refine ⟨by decide, fun n inside => ?_⟩
      obtain rfl := List.mem_singleton.1 inside
      exact isWritable_of_lt_ten (by decide)
  obtain ⟨-, valid, -⟩ := updates_keep_settings_valid [refused] manifest admissible
  exact ⟨admissible, valid, by decide +kernel⟩

end SemanticVersion
