import SemanticVersion.Proofs.History.Invariant
import SemanticVersion.Proofs.Version.Precedes

/-!
# Increments move forward

Incrementing a number makes the numbers greater, and incrementing a pre-release makes its fields
greater: a number in last place grows, and behind a text there is a field more.  So each increment
raises precedence, and by transitivity every version of a run of increments has higher precedence than
all versions before it.

An increment of a pre-release reads all fields and writes them again, so it can fail only at the digit
limit.  It does not when the numbers among the fields leave room for one more.

* `compareFields_advance` — the fields that follow are greater.
* `Version.FieldsBelow`, `FieldsBelow.exists_nextPrerelease` — the pre-releases with room for one more.
* `WellFormed.precedes_nextPrerelease` — the pre-release after another is greater.
* `WellFormed.precedes_next`, `WellFormed.pairwise_precedes_increments` — one increment, and any number.
* `Version.increments` — the versions of a run of increments.
* `increments_move_forward` — the run and each kind of step.
-/

namespace SemanticVersion

/-! ## The fields that follow -/

/-- The fields that follow are greater. -/
theorem compareFields_advance {fields : List Field} (nonempty : fields ≠ []) :
    compareFields fields (advance fields) = .lt := by
  induction fields with
  | nil => contradiction
  | cons field fields ih =>
      by_cases last : fields = []
      · subst last
        cases field with
        | numeric value =>
            have lower : compare value (value + 1) = .lt := Std.compare_eq_lt.2 (by omega)
            rw [advance, compareFields, Field.compare, lower]
            rfl
        | alphanumeric text =>
            have same : compare text text = .eq := Std.ReflOrd.compare_self
            rw [advance, compareFields, Field.compare, same]
            rfl
      · have same : field.compare field = .eq := Std.ReflCmp.compare_self
        rw [advance_cons_of_ne_nil last, compareFields, same, ih last]
        rfl

/-- Where there are fields there are fields that follow. -/
lemma advance_ne_nil {fields : List Field} (nonempty : fields ≠ []) : advance fields ≠ [] := by
  intro none
  have greater := compareFields_advance nonempty
  rw [none] at greater
  cases fields with
  | nil => contradiction
  | cons field fields => contradiction

/-! ## Room for one more -/

/-- The numbers below a bound, and all texts. -/
def Field.Below (bound : Nat) : Field → Prop
  | .numeric value => value < bound
  | .alphanumeric _ => True

/-- A token that stands for a number below the bound is read as one. -/
lemma below_of_ofToken {token : String} {bound : Nat}
    (below : isNatural token = true → Nat.ofDigitChars 10 token.toList 0 < bound) {field : Field}
    (read : Field.ofToken token = .ok field) : field.Below bound := by
  rcases ofToken_eq_ok_cases.1 read with ⟨value, natural, digits, rfl⟩ | ⟨-, rfl⟩
  · rw [readNatural] at digits
    split at digits
    · obtain rfl := Except.ok.inj digits
      exact Int.ofNat_lt.2 (below natural)
    · contradiction
  · trivial

lemma below_of_mem_advance {fields : List Field} {bound : Nat} (room : 1 < bound)
    (below : ∀ field ∈ fields, field.Below (bound - 1)) :
    ∀ field ∈ advance fields, field.Below bound := by
  refine forall_mem_advance (fun field h => ?_) (fun value h => ?_) ?_ below
  · cases field with
    | numeric value =>
        have small : value < (bound - 1 : Nat) := h
        have larger : value < bound := by omega
        exact larger
    | alphanumeric text => trivial
  · have small : value < (bound - 1 : Nat) := h
    have next : value + 1 < bound := by omega
    exact next
  · exact Int.ofNat_lt.2 room

/-- Well-formed fields below the digit limit are printed. -/
lemma exists_fieldsText {fields : List Field} (wellFormed : ∀ field ∈ fields, field.WellFormed)
    (below : ∀ field ∈ fields, field.Below (10 ^ digitLimit)) :
    ∃ text, fieldsText fields = .ok text := by
  have each : ∀ field ∈ fields, ∃ token, field.text = .ok token := by
    intro field mem
    cases field with
    | numeric value =>
        have nonneg : 0 ≤ value := wellFormed _ mem
        have small : value < (10 ^ digitLimit : Nat) := below _ mem
        have writable : IsWritable value := by
          rw [IsWritable]
          omega
        exact ⟨_, writeInteger_eq_ok_iff.2 ⟨writable, rfl⟩⟩
    | alphanumeric text => exact ⟨text, rfl⟩
  obtain ⟨tokens, printed⟩ := exists_mapM_eq_ok_iff.2 each
  exact ⟨_, bind_eq_ok_iff.2 ⟨tokens, printed, rfl⟩⟩

namespace Version

/-- The versions whose pre-release has only numbers below the bound among its tokens. -/
def FieldsBelow (version : Version) (bound : Nat) : Prop :=
  ∀ token ∈ splitFields version.prerelease, isNatural token = true →
    Nat.ofDigitChars 10 token.toList 0 < bound

instance (version : Version) (bound : Nat) : Decidable (version.FieldsBelow bound) :=
  inferInstanceAs (Decidable (∀ token ∈ splitFields version.prerelease, isNatural token = true →
    Nat.ofDigitChars 10 token.toList 0 < bound))

variable {version next : Version}

/-- Numbers of pre-releases have no superfluous zeros, so their size bounds their length. -/
lemma FieldsBelow.fieldsReadable {bound : Nat} (below : version.FieldsBelow bound)
    (within : bound ≤ 10 ^ digitLimit) (wellFormed : version.WellFormed) :
    version.FieldsReadable := by
  intro token mem natural
  have valid := isPrerelease_iff_splitFields.1 wellFormed.prerelease token mem
  have writable : IsWritable (Nat.ofDigitChars 10 token.toList 0) := by
    have small := below token mem natural
    rw [IsWritable, Int.natAbs_natCast]
    omega
  rw [← length_toDigits_le_digitLimit_iff, toDigits_ofDigitChars ⟨natural, valid.2⟩] at writable
  rw [← String.length_toList]
  exact writable

/-! ## One increment -/

/-- What follows a pre-release is a greater pre-release of the same numbers. -/
theorem WellFormed.precedes_nextPrerelease (h : version.WellFormed)
    (ok : version.nextPrerelease = .ok next) :
    next.isStable = false ∧ version.compareNumbers next = .eq ∧ version.Precedes next := by
  obtain ⟨unstable, fields, prerelease, read, printed, rfl⟩ := nextPrerelease_eq_ok_iff.1 ok
  have reread : Version.prereleaseFields { version.stableCore with prerelease } =
    .ok (advance fields) := (h.fields_next read printed).2
  have nonempty : fields ≠ [] := by
    rintro rfl
    rw [(hasStanding_of_fields read).isStable_eq_isEmpty] at unstable
    contradiction
  have unstable_next : Version.isStable { version.stableCore with prerelease } = false := by
    rw [(hasStanding_of_fields reread).isStable_eq_isEmpty, List.isEmpty_eq_false_iff]
    exact advance_ne_nil nonempty
  have numbers : version.compareNumbers { version.stableCore with prerelease } = .eq :=
    compareNumbers_eq_eq_iff.2 ⟨rfl, rfl, rfl⟩
  refine ⟨unstable_next, numbers, precedes_iff.2 (.inr ⟨numbers, unstable, .inr ?_⟩)⟩
  exact ⟨unstable_next, fields, advance fields, read, reread, compareFields_advance nonempty⟩

/-- A pre-release whose numbers leave room for one more can be incremented. -/
theorem FieldsBelow.exists_nextPrerelease (below : version.FieldsBelow (10 ^ digitLimit - 1))
    (h : version.WellFormed) (unstable : version.isStable = false) :
    ∃ next, version.nextPrerelease = .ok next := by
  have room : 1 < 10 ^ digitLimit := Nat.one_lt_pow (by decide) (by decide)
  have readable := below.fieldsReadable (by omega) h
  obtain ⟨fields, read⟩ := exists_readFields_eq_ok_iff.2 readable
  have wellFormed := ((readFields_eq_ok_iff (isPrerelease_iff_splitFields.1 h.prerelease)).1 read).1
  have small : ∀ field ∈ fields, field.Below (10 ^ digitLimit - 1) := by
    intro field mem
    obtain ⟨token, mem_tokens, read_token⟩ := exists_mem_of_mapM_eq_ok read field mem
    exact below_of_ofToken (below token mem_tokens) read_token
  obtain ⟨text, printed⟩ := exists_fieldsText (wellFormed_of_mem_advance wellFormed)
    (below_of_mem_advance room small)
  exact ⟨_, nextPrerelease_eq_ok_iff.2 ⟨unstable, fields, text, read, printed, rfl⟩⟩

/-- An increment leads to a version of higher precedence. -/
theorem WellFormed.precedes_next (h : version.WellFormed) {identifier : Identifier}
    (ok : version.next identifier = .ok next) : version.Precedes next := by
  cases identifier with
  | prerelease => exact (h.precedes_nextPrerelease ok).2.2
  | metadata => contradiction
  | major | minor | patch =>
      obtain rfl := Except.ok.inj ok
      refine precedes_iff.2 (.inl (compareNumbers_eq_lt_iff.2 ?_))
      dsimp only [stableCore]
      omega

/-- An increment leads to a version without metadata. -/
lemma metadata_of_next {identifier : Identifier} (ok : version.next identifier = .ok next) :
    next.metadata = "" := by
  cases identifier with
  | prerelease =>
      obtain ⟨-, fields, prerelease, -, -, rfl⟩ := nextPrerelease_eq_ok_iff.1 ok
      rfl
  | metadata => contradiction
  | major | minor | patch =>
      obtain rfl := Except.ok.inj ok
      rfl

/-! ## A run of increments -/

/-- The versions that come up when the parts named in a list are incremented one after the other.  An
increment that fails is passed over. -/
def increments (version : Version) : List Identifier → List Version
  | [] => []
  | identifier :: rest =>
    match version.next identifier with
    | .ok next => next :: next.increments rest
    | .error _ => version.increments rest

/-- Along a run of increments precedence rises. -/
theorem WellFormed.pairwise_precedes_increments (h : version.WellFormed)
    (identifiers : List Identifier) :
    (version :: version.increments identifiers).Pairwise Precedes := by
  induction identifiers generalizing version with
  | nil => simp [increments]
  | cons identifier rest ih =>
      rw [increments]
      split
      · next next ok =>
          have step := h.precedes_next ok
          have run := ih (h.next ok)
          refine List.pairwise_cons.2 ⟨List.forall_mem_cons.2 ⟨step, fun later mem => ?_⟩, run⟩
          -- what comes up later is higher than the result of this step
          exact step.trans ((List.pairwise_cons.1 run).1 later mem)
      · exact ih h

/-- What comes up in a run of increments is well-formed and has no metadata. -/
theorem WellFormed.of_mem_increments (h : version.WellFormed) (identifiers : List Identifier) :
    ∀ later ∈ version.increments identifiers, later.WellFormed ∧ later.metadata = "" := by
  induction identifiers generalizing version with
  | nil => simp [increments]
  | cons identifier rest ih =>
      rw [increments]
      split
      · next next ok =>
          rw [List.forall_mem_cons]
          exact ⟨⟨h.next ok, metadata_of_next ok⟩, ih (h.next ok)⟩
      · exact ih h

end Version

/-- **Increments move forward.**  In a run of increments from a well-formed version, where increments
that fail are passed over, every version has higher precedence than all versions before it, so none
comes up twice, and no version has metadata.

Incrementing a number never fails and gives a stable version.  A pre-release whose numbers leave room
for one more is followed by a pre-release of the same numbers, which lies strictly between it and the
stable version.  A stable version has no pre-release to increment, and metadata is never
incremented. -/
theorem increments_move_forward :
    (∀ start : Version, start.WellFormed → ∀ identifiers : List Identifier,
      (start :: start.increments identifiers).Pairwise Version.Precedes ∧
      (start :: start.increments identifiers).Nodup ∧
      ∀ version ∈ start.increments identifiers, version.metadata = "") ∧
    (∀ (version : Version) (identifier : Identifier), identifier.isNumeric = true →
      ∃ next, version.next identifier = .ok next ∧ next.isStable = true) ∧
    (∀ version : Version, version.WellFormed → version.isStable = false →
      version.FieldsBelow (10 ^ digitLimit - 1) →
      ∃ next, version.next .prerelease = .ok next ∧ next.isStable = false ∧
        next.major = version.major ∧ next.minor = version.minor ∧ next.patch = version.patch ∧
        version.Precedes next ∧ next.Precedes version.stableCore) ∧
    (∀ version : Version, version.isStable = true →
      ∃ reason, version.next .prerelease = .error (.illegalOperation .prerelease reason)) ∧
    ∀ version : Version,
      ∃ reason, version.next .metadata = .error (.illegalOperation .metadata reason) := by
  refine ⟨fun start h identifiers => ?_, fun version identifier numeric => ?_,
    fun version h unstable below => ?_, fun version stable => ?_, fun version => ⟨_, rfl⟩⟩
  · have rises := h.pairwise_precedes_increments identifiers
    exact ⟨rises, rises.imp Version.Precedes.ne, fun version mem =>
      (h.of_mem_increments identifiers version mem).2⟩
  · cases identifier with
    | major | minor | patch => exact ⟨_, rfl, rfl⟩
    | prerelease | metadata => contradiction
  · obtain ⟨next, ok⟩ := below.exists_nextPrerelease h unstable
    obtain ⟨unstable_next, numbers, lower⟩ := h.precedes_nextPrerelease ok
    obtain ⟨major, minor, patch⟩ := Version.compareNumbers_eq_eq_iff.1 numbers
    have core : next.compareNumbers version.stableCore = .eq :=
      Version.compareNumbers_eq_eq_iff.2 ⟨major.symm, minor.symm, patch.symm⟩
    exact ⟨next, ok, unstable_next, major.symm, minor.symm, patch.symm, lower,
      Version.precedes_iff.2 (.inr ⟨core, unstable_next, .inl rfl⟩)⟩
  · refine ⟨"stable version has no pre-release to increment", ?_⟩
    rw [Version.next, Version.nextPrerelease, if_pos stable]

/-- A run with a field that gets a second digit and with increments that fail, and one step of each
kind. -/
theorem increments_of_prerelease :
    Version.WellFormed ⟨1, 0, 0, "rc.9", "a"⟩ ∧
    Version.FieldsBelow ⟨1, 0, 0, "rc.9", "a"⟩ (10 ^ digitLimit - 1) ∧
    Version.increments ⟨1, 0, 0, "rc.9", "a"⟩
        [.prerelease, .metadata, .prerelease, .patch, .prerelease, .minor] =
      [⟨1, 0, 0, "rc.10", ""⟩, ⟨1, 0, 0, "rc.11", ""⟩, ⟨1, 0, 1, "", ""⟩, ⟨1, 1, 0, "", ""⟩] ∧
    [⟨1, 0, 0, "rc.9", "a"⟩, ⟨1, 0, 0, "rc.10", ""⟩, ⟨1, 0, 0, "rc.11", ""⟩, ⟨1, 0, 1, "", ""⟩,
      ⟨1, 1, 0, "", ""⟩].Pairwise Version.Precedes ∧
    (∃ next, Version.next ⟨1, 0, 0, "rc.9", "a"⟩ .minor = .ok next ∧ next.isStable = true) ∧
    (∃ next, Version.next ⟨1, 0, 0, "rc.9", "a"⟩ .prerelease = .ok next ∧
      Version.Precedes ⟨1, 0, 0, "rc.9", "a"⟩ next ∧ next.Precedes ⟨1, 0, 0, "", ""⟩) ∧
    ∃ reason, Version.next ⟨1, 0, 1, "", ""⟩ .prerelease =
      .error (.illegalOperation .prerelease reason) := by
  have wellFormed : Version.WellFormed ⟨1, 0, 0, "rc.9", "a"⟩ := by decide +kernel
  have below : Version.FieldsBelow ⟨1, 0, 0, "rc.9", "a"⟩ (10 ^ digitLimit - 1) := by decide +kernel
  have versions : Version.increments ⟨1, 0, 0, "rc.9", "a"⟩
      [.prerelease, .metadata, .prerelease, .patch, .prerelease, .minor] =
      [⟨1, 0, 0, "rc.10", ""⟩, ⟨1, 0, 0, "rc.11", ""⟩, ⟨1, 0, 1, "", ""⟩, ⟨1, 1, 0, "", ""⟩] := by
    decide +kernel
  obtain ⟨run, number, step, stable, -⟩ := increments_move_forward
  obtain ⟨rises, -, -⟩ := run _ wellFormed
    [.prerelease, .metadata, .prerelease, .patch, .prerelease, .minor]
  rw [versions] at rises
  obtain ⟨next, ok, -, -, -, -, lower, higher⟩ := step _ wellFormed rfl below
  exact ⟨wellFormed, below, versions, rises, number _ .minor rfl, ⟨next, ok, lower, higher⟩,
    stable _ rfl⟩

end SemanticVersion
