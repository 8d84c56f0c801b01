import SemanticVersion.Proofs.Version.Blame

/-!
# Replacing a component

A replacement is built from the components in front of the replaced one, the given value, and nothing
behind it.  As for every version that is built, the components are not checked one by one, and a refused
text is traced back to a component.

**The frame.**  Which components are kept and which are reset is the same rule for all five identifiers:
what is more significant is kept, and what is less significant is reset (`replaces_replacement`).

**The blame.**  The kept components of a well-formed version are valid and the reset ones always are.  So
the given value is the only component that can be invalid, and whatever marks and illegal characters it
holds, it is the one that is reported (`isCulprit_replacement`).

* `Identifier.Suits`, `Identifier.cleared` — the values of a kind that an identifier accepts, and what it is
  reset to.
* `Version.Replaces`, `Version.replacement` — a version with a component replaced, and what it is built
  from.
* `Version.SoundAbove` — what is asked of the kept components.
* `replace_of_not_suits`, `exists_report_of_replace`, `exists_replaced` — the three outcomes.
* `replace_outcomes` — all of it together.
-/

namespace SemanticVersion

/-! ## Values for an identifier -/

/-- The values of a kind that an identifier accepts.  A truth value is no number, and nothing at all stands
for the empty text. -/
def Identifier.Suits (identifier : Identifier) : Value → Prop
  | .int _ => identifier.isNumeric = true
  | .text _ | .nothing => identifier.isNumeric = false
  | _ => False

/-- The component that an identifier is reset to. -/
def Identifier.cleared (identifier : Identifier) : Component :=
  if identifier.isNumeric then .number 0 else .text ""

/-- The values that are no integer beyond the digit limit. -/
def Value.Writable : Value → Prop
  | .int n => IsWritable n
  | _ => True

/-- The integer that a value is, and zero for any other value. -/
def Value.number : Value → Int
  | .int n => n
  | _ => 0

/-- The text that a value is, if it is one. -/
def Value.content? : Value → Option String
  | .text content => some content
  | _ => none

/-- A version that is another one with a component replaced. -/
structure Version.Replaces (replaced version : Version) (identifier : Identifier) (value : Value) :
    Prop where
  given : (replaced.get identifier).toValue = value.held
  kept : ∀ other : Identifier, other.rank < identifier.rank → replaced.get other = version.get other
  reset : ∀ other : Identifier, identifier.rank < other.rank → replaced.get other = other.cleared

/-- The versions whose components in front of an identifier are valid and keep to the digit limit. -/
structure Version.SoundAbove (version : Version) (identifier : Identifier) : Prop where
  admits : ∀ other : Identifier, other.rank < identifier.rank → other.Admits (version.get other).toValue
  writable : ∀ other : Identifier, other.rank < identifier.rank → (version.get other).toValue.Writable

lemma Value.writable_held_iff {value : Value} : value.held.Writable ↔ value.Writable := by
  cases value <;> rfl

namespace Identifier

variable {identifier : Identifier} {value : Value}

/-- No two identifiers are equally significant. -/
lemma eq_of_rank_eq {first second : Identifier} (same : first.rank = second.rank) : first = second := by
  cases first <;> cases second <;> first | rfl | contradiction

/-- What is valid has the right kind. -/
lemma suits_of_admits (valid : identifier.Admits value) : identifier.Suits value := by
  cases identifier <;> cases value <;> first | rfl | exact valid.elim

lemma admits_cleared : identifier.Admits identifier.cleared.toValue := by
  cases identifier <;> simp [Admits, cleared, isNumeric, Component.toValue]

lemma writable_cleared : identifier.cleared.toValue.Writable := by
  cases identifier with
  | prerelease | metadata => trivial
  | major | minor | patch =>
      have zero : IsWritable 0 := isWritable_of_lt_ten (by decide)
      exact zero

end Identifier

/-! ## Versions by their components -/

lemma Component.toValue_inj {first second : Component} (same : first.toValue = second.toValue) :
    first = second := by
  cases first with
  | number n =>
      cases second with
      | number m => exact congrArg _ (Value.int.inj same)
      | text content => exact Value.noConfusion same
  | text content =>
      cases second with
      | number m => exact Value.noConfusion same
      | text other => exact congrArg _ (Value.text.inj same)

namespace Version

variable {version : Version}

/-- A version is its components. -/
lemma eq_of_get {first second : Version}
    (same : ∀ identifier : Identifier, first.get identifier = second.get identifier) :
    first = second := by
  obtain ⟨major, minor, patch, prerelease, metadata⟩ := first
  obtain rfl := Component.number.inj (same .major)
  obtain rfl := Component.number.inj (same .minor)
  obtain rfl := Component.number.inj (same .patch)
  obtain rfl := Component.text.inj (same .prerelease)
  obtain rfl := Component.text.inj (same .metadata)
  rfl

lemma writable_iff_get :
    version.Writable ↔ ∀ identifier : Identifier, (version.get identifier).toValue.Writable := by
  constructor
  · intro writable identifier
    cases identifier with
    | major => exact writable.major
    | minor => exact writable.minor
    | patch => exact writable.patch
    | prerelease | metadata => trivial
  · intro writable
    exact ⟨writable .major, writable .minor, writable .patch⟩

/-- Well-formed versions within the limit can be kept whatever is replaced. -/
lemma WellFormed.soundAbove (wellFormed : version.WellFormed) (writable : version.Writable)
    (identifier : Identifier) : version.SoundAbove identifier where
  admits := fun other _ => wellFormed_iff_get.1 wellFormed other
  writable := fun other _ => writable_iff_get.1 writable other

/-- What holds of the kept components, of the given value and of cleared components holds of all. -/
theorem Replaces.forall_get {P : Identifier → Value → Prop} {replaced : Version}
    {identifier : Identifier} {value : Value} (replaces : replaced.Replaces version identifier value)
    (kept : ∀ other : Identifier, other.rank < identifier.rank → P other (version.get other).toValue)
    (given : P identifier value.held) (reset : ∀ other : Identifier, P other other.cleared.toValue)
    (other : Identifier) : P other (replaced.get other).toValue := by
  rcases Nat.lt_trichotomy other.rank identifier.rank with earlier | same | later
  · rw [replaces.kept other earlier]
    exact kept other earlier
  · obtain rfl := Identifier.eq_of_rank_eq same
    rw [replaces.given]
    exact given
  · rw [replaces.reset other later]
    exact reset other

end Version

namespace Draft

variable {draft : Draft} {version : Version} {identifier : Identifier} {value : Value}

/-- A component of a draft has the right kind. -/
lemma suits_value : identifier.Suits (draft.value identifier) := by
  obtain ⟨major, minor, patch, prerelease, metadata⟩ := draft
  cases identifier with
  | major | minor | patch => rfl
  | prerelease => cases prerelease <;> rfl
  | metadata => cases metadata <;> rfl

end Draft

/-! ## What is built -/

/-- The components that a version is built from when one of its components is replaced. -/
def Version.replacement (version : Version) (identifier : Identifier) (value : Value) : Draft :=
  match identifier with
  | .major => ⟨value.number, 0, 0, none, none⟩
  | .minor => ⟨version.major, value.number, 0, none, none⟩
  | .patch => ⟨version.major, version.minor, value.number, none, none⟩
  | .prerelease => ⟨version.major, version.minor, version.patch, value.content?, none⟩
  | .metadata =>
    ⟨version.major, version.minor, version.patch, some version.prerelease, value.content?⟩

variable {version : Version} {identifier : Identifier} {value : Value}

/-- A value of the wrong kind is refused before anything is built. -/
theorem replace_of_not_suits (unsuited : ¬ identifier.Suits value) :
    ∃ expected, version.replace identifier value =
      .error (.kindMismatch identifier value.kind expected) := by
  cases identifier with
  | major | minor | patch =>
      refine ⟨"int", ?_⟩
      cases value with
      | int n => exact absurd rfl unsuited
      | _ => rfl
  | prerelease | metadata =>
      refine ⟨"str", ?_⟩
      cases value with
      | nothing | text => exact absurd rfl unsuited
      | _ => rfl

/-- A value of the right kind is built in. -/
theorem replace_eq_build (suits : identifier.Suits value) :
    version.replace identifier value = (version.replacement identifier value).build := by
  rw [Draft.build_eq_build]
  cases identifier <;> cases value <;> first | rfl | cases suits

lemma value_replacement (suits : identifier.Suits value) :
    (version.replacement identifier value).value identifier = value := by
  cases identifier <;> cases value <;> first | rfl | cases suits

/-- The components in front of the value are kept, and those behind it are reset. -/
theorem replaces_replacement (suits : identifier.Suits value) :
    (version.replacement identifier value).version.Replaces version identifier value where
  given := by rw [Draft.toValue_get_version, value_replacement suits]
  kept := by
    intro other earlier
    cases identifier <;> cases other <;> first | rfl | contradiction
  reset := by
    intro other later
    cases identifier <;> cases other <;> first | rfl | contradiction

namespace Version.SoundAbove

variable (above : version.SoundAbove identifier)
include above

/-- An invalid value is the first invalid component, since those in front of it are kept. -/
lemma isCulprit_replacement (suits : identifier.Suits value) (invalid : ¬ identifier.Admits value) :
    (version.replacement identifier value).IsCulprit identifier := by
  constructor
  · rwa [value_replacement suits]
  · intro other earlier
    rw [← Draft.admits_get_version_iff, (replaces_replacement suits).kept other earlier]
    exact above.admits other earlier

/-- With a valid value nothing is invalid, since what is behind it is reset. -/
lemma wellFormed_replacement (valid : identifier.Admits value) :
    (version.replacement identifier value).version.WellFormed := by
  have replaces : (version.replacement identifier value).version.Replaces version identifier value :=
    replaces_replacement (Identifier.suits_of_admits valid)
  rw [wellFormed_iff_get]
  exact replaces.forall_get above.admits (Identifier.admits_held_iff.2 valid)
    fun _ => Identifier.admits_cleared

lemma writable_replacement (suits : identifier.Suits value) (within : value.Writable) :
    (version.replacement identifier value).version.Writable := by
  have replaces : (version.replacement identifier value).version.Replaces version identifier value :=
    replaces_replacement suits
  rw [writable_iff_get]
  exact replaces.forall_get above.writable (Value.writable_held_iff.2 within)
    fun _ => Identifier.writable_cleared

/-- An invalid value is reported, and no other component. -/
theorem exists_report_of_replace (within : value.Writable) (suits : identifier.Suits value)
    (invalid : ¬ identifier.Admits value) :
    ∃ report : InvalidField, version.replace identifier value = .error (.invalidField report) ∧
      report.field = identifier.name ∧ report.value = value := by
  obtain ⟨report, reported, field, reported_value, -⟩ :=
    Draft.exists_report (above.writable_replacement suits within)
      (above.isCulprit_replacement suits invalid)
  rw [value_replacement suits] at reported_value
  exact ⟨report, (replace_eq_build suits).trans reported, field, reported_value⟩

/-- A valid value is held by the well-formed version with the component replaced. -/
theorem exists_replaced (within : value.Writable) (valid : identifier.Admits value) :
    ∃ replaced : Version, version.replace identifier value = .ok replaced ∧ replaced.WellFormed ∧
      replaced.Replaces version identifier value := by
  have suits := Identifier.suits_of_admits valid
  have wellFormed := above.wellFormed_replacement valid
  have built := Draft.build_of_wellFormed (above.writable_replacement suits within) wellFormed
  exact ⟨_, (replace_eq_build suits).trans built, wellFormed, replaces_replacement suits⟩

end Version.SoundAbove

/-- **Replacing a component.**  The outcome for a well-formed version depends on the identifier and the value
only.  A value of the wrong kind is a mismatch for the identifier.  A value of the right kind that is not
valid for the identifier is reported, under the name of the identifier.  For every other value there is a
well-formed version that holds it, that keeps what is more significant and resets what is less
significant. -/
theorem replace_outcomes (version : Version) (identifier : Identifier) (value : Value)
    (wellFormed : version.WellFormed) (writable : version.Writable) (within : value.Writable) :
    ((∃ supplied expected, version.replace identifier value =
        .error (.kindMismatch identifier supplied expected)) ↔ ¬ identifier.Suits value) ∧
    ((∃ report, version.replace identifier value = .error (.invalidField report)) ↔
      identifier.Suits value ∧ ¬ identifier.Admits value) ∧
    (∀ report, version.replace identifier value = .error (.invalidField report) →
      report.field = identifier.name ∧ report.value = value) ∧
    ((∃ replaced, version.replace identifier value = .ok replaced) ↔ identifier.Admits value) ∧
    ∀ replaced, version.replace identifier value = .ok replaced →
      replaced.WellFormed ∧ (replaced.get identifier).toValue = value.held ∧
      (∀ other : Identifier, other.rank < identifier.rank →
        replaced.get other = version.get other) ∧
      ∀ other : Identifier, identifier.rank < other.rank → replaced.get other = other.cleared := by
  have above := wellFormed.soundAbove writable identifier
  by_cases suits : identifier.Suits value
  · by_cases valid : identifier.Admits value
    · obtain ⟨replaced, built, replaced_wellFormed, replaces⟩ := above.exists_replaced within valid
      rw [built]
      refine ⟨by simp [suits], by simp [valid], nofun, by simp [valid], ?_⟩
      rintro _ ⟨⟩
      exact ⟨replaced_wellFormed, replaces.given, replaces.kept, replaces.reset⟩
    · obtain ⟨report, reported, field, reported_value⟩ :=
        above.exists_report_of_replace within suits valid
      rw [reported]
      refine ⟨by simp [suits], by simp [suits, valid], ?_, by simp [valid], nofun⟩
      rintro _ ⟨⟩
      exact ⟨field, reported_value⟩
  · have invalid : ¬ identifier.Admits value := mt Identifier.suits_of_admits suits
    obtain ⟨expected, mismatch⟩ :
        ∃ expected, version.replace identifier value = _ := replace_of_not_suits suits
    rw [mismatch]
    exact ⟨by simp [suits], by simp [suits], nofun, by simp [invalid], nofun⟩

/-- A pre-release that would be read as a pre-release and metadata is reported as it was given.  The metadata
of the version does not come after it, since it is reset.  A truth value is no number, and a number that is
replaced resets both texts. -/
theorem replace_of_embedded_mark :
    Version.WellFormed ⟨1, 2, 5, "alpha", "001"⟩ ∧ Version.Writable ⟨1, 2, 5, "alpha", "001"⟩ ∧
    Value.Writable (.int 8) ∧
    (∃ report, Version.replace ⟨1, 2, 5, "alpha", "001"⟩ .prerelease (.text "a+b") =
      .error (.invalidField report) ∧ report.field = "prerelease" ∧ report.value = .text "a+b") ∧
    (∃ supplied expected, Version.replace ⟨1, 2, 5, "alpha", "001"⟩ .major (.bool true) =
      .error (.kindMismatch .major supplied expected)) ∧
    ∃ replaced, Version.replace ⟨1, 2, 5, "alpha", "001"⟩ .minor (.int 8) = .ok replaced ∧
      replaced.get .major = .number 1 ∧ (replaced.get .minor).toValue = .int 8 ∧
      replaced.get .patch = .number 0 ∧ replaced.get .prerelease = .text "" ∧
      replaced.get .metadata = .text "" := by
  have wellFormed : Version.WellFormed ⟨1, 2, 5, "alpha", "001"⟩ := by decide +kernel
  have writable : Version.Writable ⟨1, 2, 5, "alpha", "001"⟩ :=
    Version.writable_of_lt_ten (by decide) (by decide) (by decide)
  have eight : IsWritable 8 := isWritable_of_lt_ten (by decide)
  have embedded : ¬ ("a+b" = "" ∨ IsPrerelease "a+b".toList) := by decide +kernel
  obtain ⟨-, invalid, blamed, -, -⟩ :=
    replace_outcomes _ .prerelease (.text "a+b") wellFormed writable trivial
  obtain ⟨report, reported⟩ := invalid.2 ⟨rfl, embedded⟩
  obtain ⟨mismatch, -⟩ := replace_outcomes _ .major (.bool true) wellFormed writable trivial
  obtain ⟨-, -, -, valid, frame⟩ := replace_outcomes _ .minor (.int 8) wellFormed writable eight
  obtain ⟨replaced, built⟩ := valid.2 (by decide : (0 : Int) ≤ 8)
  obtain ⟨-, given, kept, reset⟩ := frame replaced built
  exact ⟨wellFormed, writable, eight, ⟨report, reported, blamed report reported⟩, mismatch.2 nofun,
    replaced, built, kept .major (by decide), given, reset .patch (by decide),
    reset .prerelease (by decide), reset .metadata (by decide)⟩

end SemanticVersion
