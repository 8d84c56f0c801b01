import SemanticVersion.Proofs.Field.Order
import SemanticVersion.Proofs.Field.Reading
import SemanticVersion.Version.Precedence

/-!
# Precedence is a total preorder

Comparing two versions stops at the first difference, treats stable versions apart and reads fields
only when it has to.  The same comes out when everything that matters for precedence is read first and
then compared lexicographically: the numbers, whether the version is stable, and the fields.  What is
compared this way is totally ordered.  So precedence is a total preorder, also among versions that are
not well-formed.

Among well-formed versions only the metadata makes a difference between versions of equal precedence,
since no two spellings of a pre-release have the same fields.

* `Version.FieldsReadable` — the versions whose fields keep to the digit limit.
* `Standing`, `Version.HasStanding` — what matters for precedence, and its total order.
* `precedence_eq_compare` — precedence is the order of the standings.
* `HasStanding.eq_iff` — the well-formed versions of equal standing.
* `precedence_isTotalPreorder` — the laws, and the versions that tie.
-/

namespace SemanticVersion

/-- The versions whose pre-release has no run of digits over the limit. -/
def Version.FieldsReadable (version : Version) : Prop :=
  ∀ token ∈ splitFields version.prerelease, isNatural token = true → token.length ≤ digitLimit

instance (version : Version) : Decidable version.FieldsReadable :=
  inferInstanceAs (Decidable (∀ token ∈ splitFields version.prerelease,
    isNatural token = true → token.length ≤ digitLimit))

/-- Only the empty text has no tokens. -/
lemma isEmpty_splitFields (text : String) : (splitFields text).isEmpty = text.isEmpty := by
  rw [splitFields]
  split
  · next none => exact none.symm
  · next some =>
      rw [List.isEmpty_map, List.isEmpty_eq_false_iff.2 (List.splitOn_ne_nil _ _)]
      simpa using some

/-! ## Standings -/

/-- What matters for precedence. -/
@[ext]
structure Standing where
  major : Int
  minor : Int
  patch : Int
  stable : Bool
  fields : List Field

namespace Standing

/-- The lexicographic order of standings. -/
protected def compare : Standing → Standing → Ordering :=
  compareLex (compareOn major) <| compareLex (compareOn minor) <| compareLex (compareOn patch) <|
    compareLex (compareOn stable) fun a b => compareFields a.fields b.fields

instance : Std.TransCmp fun a b : Standing => compareFields a.fields b.fields where
  eq_swap := Std.OrientedCmp.eq_swap
  isLE_trans := Std.TransCmp.isLE_trans

instance : Std.TransCmp Standing.compare :=
  inferInstanceAs (Std.TransCmp (compareLex _ _))

instance : Std.LawfulEqCmp Standing.compare where
  eq_of_compare {a b} tie := by
    obtain ⟨major, minor, patch, stable, fields⟩ := a
    obtain ⟨major', minor', patch', stable', fields'⟩ := b
    simp only [Standing.compare, compareLex, compareOn, Ordering.then_eq_eq,
      Std.LawfulEqCmp.compare_eq_iff_eq] at tie
    obtain ⟨rfl, rfl, rfl, rfl, rfl⟩ := tie
    rfl

end Standing

namespace Version

/-- The version has the standing, so its fields can be read. -/
structure HasStanding (version : Version) (standing : Standing) : Prop where
  major : standing.major = version.major
  minor : standing.minor = version.minor
  patch : standing.patch = version.patch
  stable : standing.stable = version.isStable
  fields : version.prereleaseFields = .ok standing.fields

variable {a b : Version} {x y : Standing}

lemma hasStanding_of_fields {fields : List Field} (read : a.prereleaseFields = .ok fields) :
    a.HasStanding ⟨a.major, a.minor, a.patch, a.isStable, fields⟩ :=
  ⟨rfl, rfl, rfl, rfl, read⟩

lemma FieldsReadable.exists_standing (h : a.FieldsReadable) : ∃ x, a.HasStanding x := by
  obtain ⟨fields, read⟩ := exists_readFields_eq_ok_iff.2 h
  exact ⟨_, hasStanding_of_fields read⟩

namespace HasStanding

lemma unique (h : a.HasStanding x) (h' : a.HasStanding y) : x = y :=
  Standing.ext (h.major.trans h'.major.symm) (h.minor.trans h'.minor.symm)
    (h.patch.trans h'.patch.symm) (h.stable.trans h'.stable.symm)
    (Except.ok.inj (h.fields.symm.trans h'.fields))

/-- The stable versions are the versions without fields. -/
lemma isStable_eq_isEmpty (h : a.HasStanding x) : a.isStable = x.fields.isEmpty := by
  have length := (mapM_eq_ok_iff.1 h.fields).length_eq
  rw [Version.isStable, ← isEmpty_splitFields, Bool.eq_iff_iff, List.isEmpty_iff_length_eq_zero,
    List.isEmpty_iff_length_eq_zero, length]

/-- **Precedence is the order of the standings.** -/
theorem precedence_eq_compare (h : a.HasStanding x) (h' : b.HasStanding y) :
    a.precedence b = .ok (x.compare y) := by
  have lexicographic : x.compare y = (a.compareNumbers b).then
      ((compare a.isStable b.isStable).then (compareFields x.fields y.fields)) := by
    simp only [Standing.compare, compareLex, compareOn, compareNumbers, Ordering.then_assoc, h.major,
      h.minor, h.patch, h.stable, h'.major, h'.minor, h'.patch, h'.stable]
  rw [lexicographic, precedence]
  cases a.compareNumbers b with
  | lt => rfl
  | gt => rfl
  | eq =>
      cases stable : a.isStable with
      | false =>
          cases b.isStable with
          | false =>
              rw [h.fields, h'.fields]
              rfl
          | true => rfl
      | true =>
          cases stable' : b.isStable with
          | false => rfl
          | true =>
              rw [h.isStable_eq_isEmpty, List.isEmpty_iff] at stable
              rw [h'.isStable_eq_isEmpty, List.isEmpty_iff] at stable'
              rw [stable, stable']
              rfl

/-- Well-formed versions with the same standing have the same numbers and the same pre-release. -/
theorem eq_iff (h : a.HasStanding x) (h' : b.HasStanding y) (wellFormed : a.WellFormed)
    (wellFormed' : b.WellFormed) :
    x = y ↔ a.major = b.major ∧ a.minor = b.minor ∧ a.patch = b.patch ∧
      a.prerelease = b.prerelease := by
  constructor
  · rintro rfl
    have printed := (readFields_eq_ok_iff
      (isPrerelease_iff_splitFields.1 wellFormed.prerelease)).1 h.fields
    have printed' := (readFields_eq_ok_iff
      (isPrerelease_iff_splitFields.1 wellFormed'.prerelease)).1 h'.fields
    have prerelease := Except.ok.inj (printed.2.symm.trans printed'.2)
    exact ⟨h.major.symm.trans h'.major, h.minor.symm.trans h'.minor, h.patch.symm.trans h'.patch,
      prerelease⟩
  · rintro ⟨major, minor, patch, prerelease⟩
    have same : b.HasStanding x := ⟨h.major.trans major, h.minor.trans minor, h.patch.trans patch,
      h.stable.trans (congrArg String.isEmpty prerelease),
      (congrArg readFields prerelease).symm.trans h.fields⟩
    exact same.unique h'

end HasStanding

end Version

/-- **Precedence is a total preorder.**  Among versions whose fields keep to the digit limit,
well-formed or not, any two compare, a version ties with itself, swapping the versions reverses the
order, and the order is transitive, strictly so when one of the two steps is strict.  Well-formed
versions tie exactly when they differ in nothing but the metadata. -/
theorem precedence_isTotalPreorder :
    (∀ a b c : Version, a.FieldsReadable → b.FieldsReadable → c.FieldsReadable →
      ∃ ab bc ac : Ordering,
        a.precedence b = .ok ab ∧ b.precedence c = .ok bc ∧ a.precedence c = .ok ac ∧
        a.precedence a = .ok .eq ∧ b.precedence a = .ok ab.swap ∧
        (ab.isLE → bc.isLE → ac.isLE ∧ (ab = .lt ∨ bc = .lt → ac = .lt))) ∧
    ∀ a b : Version, a.FieldsReadable → b.FieldsReadable → a.WellFormed → b.WellFormed →
      (a.precedence b = .ok .eq ↔ a.major = b.major ∧ a.minor = b.minor ∧ a.patch = b.patch ∧
        a.prerelease = b.prerelease) := by
  constructor
  · intro a b c readable_a readable_b readable_c
    obtain ⟨x, ha⟩ := readable_a.exists_standing
    obtain ⟨y, hb⟩ := readable_b.exists_standing
    obtain ⟨z, hc⟩ := readable_c.exists_standing
    refine ⟨x.compare y, y.compare z, x.compare z, ha.precedence_eq_compare hb,
      hb.precedence_eq_compare hc, ha.precedence_eq_compare hc, ?_, ?_, ?_⟩
    · rw [ha.precedence_eq_compare ha]
      exact congrArg Except.ok Std.ReflCmp.compare_self
    · rw [hb.precedence_eq_compare ha]
      exact congrArg Except.ok Std.OrientedCmp.eq_swap
    · intro ab bc
      refine ⟨Std.TransCmp.isLE_trans ab bc, ?_⟩
      rintro (strict | strict)
      · exact Std.TransCmp.lt_of_lt_of_isLE strict bc
      · exact Std.TransCmp.lt_of_isLE_of_lt ab strict
  · intro a b readable_a readable_b wellFormed_a wellFormed_b
    obtain ⟨x, ha⟩ := readable_a.exists_standing
    obtain ⟨y, hb⟩ := readable_b.exists_standing
    rw [ha.precedence_eq_compare hb, ← ha.eq_iff hb wellFormed_a wellFormed_b, Except.ok.injEq,
      Std.LawfulEqCmp.compare_eq_iff_eq]

/-- Three versions of which the first two tie although their pre-releases differ, since one of them
is not well-formed, and two well-formed versions that tie. -/
theorem precedence_of_leading_zero :
    (Version.FieldsReadable ⟨1, 0, 0, "rc.01", ""⟩ ∧ Version.FieldsReadable ⟨1, 0, 0, "rc.1", "a"⟩ ∧
      Version.FieldsReadable ⟨1, 0, 0, "rc.1.0", ""⟩ ∧
      Version.FieldsReadable ⟨1, 0, 0, "rc.1", "b"⟩) ∧
    Version.precedence ⟨1, 0, 0, "rc.01", ""⟩ ⟨1, 0, 0, "rc.1", "a"⟩ = .ok .eq ∧
    Version.precedence ⟨1, 0, 0, "rc.1", "a"⟩ ⟨1, 0, 0, "rc.1.0", ""⟩ = .ok .lt ∧
    Version.precedence ⟨1, 0, 0, "rc.01", ""⟩ ⟨1, 0, 0, "rc.1.0", ""⟩ = .ok .lt ∧
    (Version.WellFormed ⟨1, 0, 0, "rc.1", "a"⟩ ∧ Version.WellFormed ⟨1, 0, 0, "rc.1", "b"⟩) ∧
    Version.precedence ⟨1, 0, 0, "rc.1", "a"⟩ ⟨1, 0, 0, "rc.1", "b"⟩ = .ok .eq := by
  have zero : Version.FieldsReadable ⟨1, 0, 0, "rc.01", ""⟩ := by decide +kernel
  have one : Version.FieldsReadable ⟨1, 0, 0, "rc.1", "a"⟩ := by decide +kernel
  have longer : Version.FieldsReadable ⟨1, 0, 0, "rc.1.0", ""⟩ := by decide +kernel
  have other : Version.FieldsReadable ⟨1, 0, 0, "rc.1", "b"⟩ := by decide +kernel
  have wellFormed : Version.WellFormed ⟨1, 0, 0, "rc.1", "a"⟩ := by decide +kernel
  have wellFormed' : Version.WellFormed ⟨1, 0, 0, "rc.1", "b"⟩ := by decide +kernel
  have tie : Version.precedence ⟨1, 0, 0, "rc.01", ""⟩ ⟨1, 0, 0, "rc.1", "a"⟩ = .ok .eq := by rfl
  have step : Version.precedence ⟨1, 0, 0, "rc.1", "a"⟩ ⟨1, 0, 0, "rc.1.0", ""⟩ = .ok .lt := by rfl
  obtain ⟨laws, ties⟩ := precedence_isTotalPreorder
  obtain ⟨ab, bc, ac, hab, hbc, hac, -, -, trans⟩ := laws _ _ _ zero one longer
  obtain rfl := Except.ok.inj (tie.symm.trans hab)
  obtain rfl := Except.ok.inj (step.symm.trans hbc)
  rw [(trans rfl rfl).2 (.inr rfl)] at hac
  exact ⟨⟨zero, one, longer, other⟩, tie, step, hac, ⟨wellFormed, wellFormed'⟩,
    (ties _ _ one other wellFormed wellFormed').2 ⟨rfl, rfl, rfl, rfl⟩⟩

end SemanticVersion
