import SemanticVersion.Proofs.Version.Replacement

/-!
# Setting components one after another

A version can be built from five components at once, or the components of some version can be set one after
another.  On one side a single text is checked and a single offset is traced back to a component.  On the
other side five texts are checked, and each of them holds other components than the one before it.  Both
come to the same.

**The invariant.**  A replacement keeps what is more significant.  So when the components are set from the
most to the least significant one, the version at hand holds the new components that have been set, and
all of them are valid.  Nothing of the first version is kept by the replacement of its first number, so it
plays no part.

**The first failure.**  By the invariant the replacement that fails is the one with the first invalid
component, and its report is about this component.  It is the one that is blamed when all components are
built at once, although the two reports may have different causes: the pre-release `a+b` is refused because
of what is read from it when it is the last component, and with the metadata `c` because of the second mark.

* `Draft.Outcome` — the version that holds the components, or a report about the first invalid one.
* `Draft.outcome_build`, `Draft.Outcome.agree` — building has such an outcome, and all of them agree.
* `Version.setEach` — all components set one after another.
* `Version.Follows` — the invariant, with `Follows.exists_report` and `Follows.exists_next` for one step and
  `Follows.outcome_foldlM` for all steps that are left.
* `setting_each_agrees_with_building` — both sides together.
-/

namespace SemanticVersion

/-! ## The outcome of building -/

namespace Draft

variable {draft : Draft}

/-- What can become of a draft: the version that holds its components, or a report about the first invalid
one. -/
inductive Outcome (draft : Draft) : Except Error Version → Prop
  | built (wellFormed : draft.version.WellFormed) : draft.Outcome (.ok draft.version)
  | blamed {culprit : Identifier} {report : InvalidField} (first : draft.IsCulprit culprit)
      (field : report.field = culprit.name) (value : report.value = draft.value culprit) :
      draft.Outcome (.error (.invalidField report))

theorem outcome_build (writable : draft.version.Writable) : draft.Outcome draft.build := by
  by_cases wellFormed : draft.version.WellFormed
  · rw [build_of_wellFormed writable wellFormed]
    exact .built wellFormed
  · obtain ⟨culprit, first⟩ := exists_isCulprit wellFormed
    obtain ⟨report, reported, field, value, -⟩ := exists_report writable first
    rw [reported]
    exact .blamed first field value

/-- There is one first invalid component only. -/
lemma IsCulprit.unique {culprit other : Identifier} (first : draft.IsCulprit culprit)
    (first' : draft.IsCulprit other) : culprit = other := by
  rcases Nat.lt_trichotomy culprit.rank other.rank with earlier | same | later
  · exact absurd (first'.2 culprit earlier) first.1
  · exact Identifier.eq_of_rank_eq same
  · exact absurd (first.2 other later) first'.1

lemma IsCulprit.not_wellFormed {culprit : Identifier} (first : draft.IsCulprit culprit) :
    ¬ draft.version.WellFormed := by
  intro wellFormed
  exact first.1 (wellFormed_iff_admits.1 wellFormed culprit)

/-- Two outcomes are the same version, or reports about the same component. -/
theorem Outcome.agree {result result' : Except Error Version} (outcome : draft.Outcome result)
    (outcome' : draft.Outcome result') :
    (∀ version, result = .ok version ↔ result' = .ok version) ∧
    ((¬ ∃ version, result' = .ok version) →
      ∃ report report', result = .error (.invalidField report) ∧
        result' = .error (.invalidField report') ∧
        report.field = report'.field ∧ report.value = report'.value) := by
  cases outcome with
  | built wellFormed =>
      cases outcome' with
      | built => exact ⟨fun _ => .rfl, fun none => absurd ⟨_, rfl⟩ none⟩
      | blamed first => exact absurd wellFormed first.not_wellFormed
  | blamed first field value =>
      cases outcome' with
      | built wellFormed => exact absurd wellFormed first.not_wellFormed
      | blamed first' field' value' =>
          obtain rfl := first.unique first'
          exact ⟨by simp, fun _ =>
            ⟨_, _, rfl, rfl, field.trans field'.symm, value.trans value'.symm⟩⟩

end Draft

/-! ## One component after another -/

/-- The version with all components set to those of a draft, one after another. -/
def Version.setEach (version : Version) (draft : Draft) : Except Error Version := do
  let version ← version.replace .major (draft.value .major)
  let version ← version.replace .minor (draft.value .minor)
  let version ← version.replace .patch (draft.value .patch)
  let version ← version.replace .prerelease (draft.value .prerelease)
  version.replace .metadata (draft.value .metadata)

/-- The version holds the components of a draft at some identifiers, and they are valid. -/
def Version.Follows (version : Version) (draft : Draft) (identifiers : List Identifier) : Prop :=
  ∀ identifier ∈ identifiers, version.get identifier = draft.version.get identifier ∧
    identifier.Admits (draft.value identifier)

variable {version : Version} {draft : Draft} {identifier : Identifier} {done todo : List Identifier}

lemma setEach_eq_foldlM :
    version.setEach draft = Identifier.all.foldlM
      (fun version identifier => version.replace identifier (draft.value identifier)) version := by
  simp [Version.setEach, Identifier.all]

/-- The identifiers in front of one in the list are the more significant ones. -/
lemma mem_iff_rank_lt (split : Identifier.all = done ++ identifier :: todo) {other : Identifier} :
    other ∈ done ↔ other.rank < identifier.rank := by
  have ordered : Identifier.all.Pairwise fun a b => a.rank < b.rank := by decide
  rw [split, List.pairwise_append, List.pairwise_cons] at ordered
  obtain ⟨-, ⟨behind, -⟩, before⟩ := ordered
  constructor
  · intro mem
    exact before other mem identifier List.mem_cons_self
  · intro earlier
    have mem := other.mem_all
    rw [split, List.mem_append, List.mem_cons] at mem
    rcases mem with mem | rfl | mem
    · exact mem
    · exact absurd earlier (lt_irrefl _)
    · exact absurd earlier (behind other mem).not_gt

lemma Draft.writable_value (writable : draft.version.Writable) (identifier : Identifier) :
    (draft.value identifier).Writable := by
  have held := Version.writable_iff_get.1 writable identifier
  rwa [Draft.toValue_get_version, Value.writable_held_iff] at held

namespace Version.Follows

lemma soundAbove (follows : version.Follows draft done) (writable : draft.version.Writable)
    (split : Identifier.all = done ++ identifier :: todo) : version.SoundAbove identifier := by
  constructor
  · intro other earlier
    obtain ⟨same, valid⟩ := follows other ((mem_iff_rank_lt split).2 earlier)
    rw [same]
    exact Draft.admits_get_version_iff.2 valid
  · intro other earlier
    obtain ⟨same, -⟩ := follows other ((mem_iff_rank_lt split).2 earlier)
    rw [same]
    exact writable_iff_get.1 writable other

/-- A step with an invalid component reports it, and it is the first invalid one. -/
theorem exists_report (follows : version.Follows draft done) (writable : draft.version.Writable)
    (split : Identifier.all = done ++ identifier :: todo)
    (invalid : ¬ identifier.Admits (draft.value identifier)) :
    draft.IsCulprit identifier ∧ ∃ report : InvalidField,
      version.replace identifier (draft.value identifier) = .error (.invalidField report) ∧
      report.field = identifier.name ∧ report.value = draft.value identifier := by
  constructor
  · refine ⟨invalid, ?_⟩
    intro other earlier
    exact (follows other ((mem_iff_rank_lt split).2 earlier)).2
  · exact (follows.soundAbove writable split).exists_report_of_replace
      (draft.writable_value writable identifier) draft.suits_value invalid

/-- A step with a valid component keeps what has been set and sets it. -/
theorem exists_next (follows : version.Follows draft done) (writable : draft.version.Writable)
    (split : Identifier.all = done ++ identifier :: todo)
    (valid : identifier.Admits (draft.value identifier)) :
    ∃ next : Version, version.replace identifier (draft.value identifier) = .ok next ∧
      next.Follows draft (done ++ [identifier]) := by
  have above := follows.soundAbove writable split
  obtain ⟨next, replaced, -, replaces⟩ :=
    above.exists_replaced (draft.writable_value writable identifier) valid
  refine ⟨next, replaced, ?_⟩
  intro other mem
  rcases List.mem_append.1 mem with mem | mem
  · obtain ⟨same, other_valid⟩ := follows other mem
    exact ⟨(replaces.kept other ((mem_iff_rank_lt split).1 mem)).trans same, other_valid⟩
  · obtain rfl := List.mem_singleton.1 mem
    refine ⟨Component.toValue_inj ?_, valid⟩
    rw [replaces.given, Draft.toValue_get_version]

/-- When all components have been set the version is that of the draft. -/
lemma outcome (follows : version.Follows draft Identifier.all) : draft.Outcome (.ok version) := by
  have same : version = draft.version := by
    refine eq_of_get ?_
    intro identifier
    exact (follows identifier identifier.mem_all).1
  have wellFormed : draft.version.WellFormed := by
    rw [Draft.wellFormed_iff_admits]
    intro identifier
    exact (follows identifier identifier.mem_all).2
  rw [same]
  exact .built wellFormed

/-- Setting the components that are left has an outcome of the draft. -/
theorem outcome_foldlM (writable : draft.version.Writable) (split : Identifier.all = done ++ todo)
    (follows : version.Follows draft done) :
    draft.Outcome (todo.foldlM
      (fun version identifier => version.replace identifier (draft.value identifier)) version) := by
  induction todo generalizing version done with
  | nil =>
      rw [List.append_nil] at split
      subst split
      exact follows.outcome
  | cons identifier todo ih =>
      rw [List.foldlM_cons]
      by_cases valid : identifier.Admits (draft.value identifier)
      · obtain ⟨next, replaced, follows⟩ := follows.exists_next writable split valid
        rw [replaced, ok_bind]
        exact ih (by rw [split, List.append_assoc, List.singleton_append]) follows
      · obtain ⟨first, report, reported, field, value⟩ :=
          follows.exists_report writable split valid
        rw [reported]
        exact .blamed first field value

end Version.Follows

/-- **Setting the components one after another is building them at once.**  Within the digit limit, whatever
version the components are set in, it gives a version exactly when building them at once does, and this is
the same version.  When they cannot be built, both sides report the same component with the same value. -/
theorem setting_each_agrees_with_building (version : Version) (draft : Draft)
    (writable : draft.version.Writable) :
    (∀ result, version.setEach draft = .ok result ↔ draft.build = .ok result) ∧
    ((¬ ∃ result, draft.build = .ok result) →
      ∃ report report', version.setEach draft = .error (.invalidField report) ∧
        draft.build = .error (.invalidField report') ∧
        report.field = report'.field ∧ report.value = report'.value) := by
  have start : version.Follows draft [] := nofun
  have stepwise : draft.Outcome (version.setEach draft) := by
    rw [setEach_eq_foldlM]
    exact start.outcome_foldlM writable rfl
  exact stepwise.agree (Draft.outcome_build writable)

/-- A pre-release with the mark of metadata in it is reported on both sides.  As the last component it is not
read back, and in front of metadata the text is refused.  With the mark in its place, the components are set
in a version that is not well-formed. -/
theorem agreement_on_embedded_mark :
    Version.Writable (Draft.version ⟨1, 0, 0, some "a+b", some "c"⟩) ∧
    (∃ report report', Version.setEach ⟨-1, 2, 3, "..", "+"⟩ ⟨1, 0, 0, some "a+b", some "c"⟩ =
        .error (.invalidField report) ∧
      Draft.build ⟨1, 0, 0, some "a+b", some "c"⟩ = .error (.invalidField report') ∧
      report.field = "prerelease" ∧ report.value = .text "a+b" ∧ report.cause = none ∧
      report'.field = "prerelease" ∧ report'.value = .text "a+b" ∧ report'.cause ≠ none) ∧
    Version.setEach ⟨-1, 2, 3, "..", "+"⟩ ⟨1, 0, 0, some "a", some "b"⟩ = .ok ⟨1, 0, 0, "a", "b"⟩ := by
  have zero : IsWritable 0 := isWritable_of_lt_ten (by decide)
  have one : IsWritable 1 := isWritable_of_lt_ten (by decide)
  have writable : ∀ prerelease metadata : String,
      Version.Writable (Draft.version ⟨1, 0, 0, some prerelease, some metadata⟩) := by
    intro prerelease metadata
    exact ⟨one, zero, zero⟩
  have first : Draft.IsCulprit ⟨1, 0, 0, some "a+b", some "c"⟩ .prerelease := by
    have embedded : ¬ ("a+b" = "" ∨ IsPrerelease "a+b".toList) := by decide +kernel
    refine ⟨embedded, ?_⟩
    intro other earlier
    cases other with
    | major => exact (by decide : (0 : Int) ≤ 1)
    | minor | patch => exact le_refl (0 : Int)
    | prerelease | metadata => exact absurd earlier (by decide)
  obtain ⟨report', refused, field, value, cause, -⟩ := Draft.exists_report (writable "a+b" "c") first
  have not_conflated : ¬ Version.Conflated (Draft.version ⟨1, 0, 0, some "a+b", some "c"⟩) := by
    intro conflated
    exact absurd conflated.metadata (by decide)
  obtain ⟨-, reports⟩ :=
    setting_each_agrees_with_building ⟨-1, 2, 3, "..", "+"⟩ _ (writable "a+b" "c")
  obtain ⟨report, other, replaced, built, same_field, same_value⟩ := reports (by simp [refused])
  obtain rfl : report' = other := by simpa using refused.symm.trans built
  have read : (match Version.setEach ⟨-1, 2, 3, "..", "+"⟩ ⟨1, 0, 0, some "a+b", some "c"⟩ with
      | .error (.invalidField report) => report.cause.isNone
      | _ => false) = true := by decide +kernel
  rw [replaced] at read
  have wellFormed : Version.WellFormed (Draft.version ⟨1, 0, 0, some "a", some "b"⟩) := by
    decide +kernel
  obtain ⟨versions, -⟩ :=
    setting_each_agrees_with_building ⟨-1, 2, 3, "..", "+"⟩ _ (writable "a" "b")
  exact ⟨writable _ _, ⟨report, report', replaced, refused, same_field.trans field,
    same_value.trans value, Option.isNone_iff_eq_none.1 read, field, value, mt cause.1 not_conflated⟩,
    (versions _).2 (Draft.build_of_wellFormed (writable _ _) wellFormed)⟩

end SemanticVersion
