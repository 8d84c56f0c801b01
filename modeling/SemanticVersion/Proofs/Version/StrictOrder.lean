import SemanticVersion.Proofs.Version.PrecedenceOrder
import SemanticVersion.Proofs.Version.RoundTrip
import SemanticVersion.Value.Order

/-!
# The strict order is a total order of well-formed versions

The relations between versions come from two sources.  Whether a version comes before another is
decided by the values of their fields, and whether two versions are the same by their spelling; `<=`,
`>` and `>=` are put together from these two answers.  That would be incoherent if two spellings had
the same values, as `rc.1` and `rc.01` have.  Among well-formed versions there are no such spellings,
so the strict order ties only for the same version and every relation is the one it should be.

* `Rank`, `Version.HasRank` — what matters for the strict order, and its total order.
* `HasRank.strictOrder_eq_compare` — the strict order is the order of the ranks.
* `HasRank.eq_iff` — well-formed versions of equal rank are the same.
* `holds_eq_admits` — a relation is what the strict order says, once only equal versions tie.
* `strictOrder_isTotalOrder` — the laws of the strict order and its relations.
-/

namespace SemanticVersion

/-! ## Ranks -/

/-- What matters for the strict order: the standing, and the metadata among versions of the same
standing. -/
@[ext]
structure Rank where
  standing : Standing
  metadata : String

namespace Rank

/-- The lexicographic order of ranks. -/
protected def compare : Rank → Rank → Ordering :=
  compareLex (fun a b => a.standing.compare b.standing) (compareOn metadata)

instance : Std.TransCmp fun a b : Rank => a.standing.compare b.standing where
  eq_swap := Std.OrientedCmp.eq_swap
  isLE_trans := Std.TransCmp.isLE_trans

instance : Std.TransCmp Rank.compare :=
  inferInstanceAs (Std.TransCmp (compareLex _ _))

instance : Std.LawfulEqCmp Rank.compare where
  eq_of_compare {a b} tie := by
    obtain ⟨standing, metadata⟩ := Ordering.then_eq_eq.1 tie
    exact Rank.ext (Std.LawfulEqCmp.eq_of_compare standing) (Std.LawfulEqOrd.eq_of_compare metadata)

/-- The metadata is looked at only among versions of the same standing. -/
lemma compare_of_standing_ne {a b : Rank} (decided : a.standing.compare b.standing ≠ .eq) :
    a.compare b = a.standing.compare b.standing := by
  rw [Rank.compare, compareLex]
  cases order : a.standing.compare b.standing with
  | eq => contradiction
  | lt | gt => rfl

end Rank

namespace Version

/-- The version has the rank, so its fields can be read. -/
structure HasRank (version : Version) (rank : Rank) : Prop where
  standing : version.HasStanding rank.standing
  metadata : rank.metadata = version.metadata

variable {a b : Version} {x y : Rank}

lemma FieldsReadable.exists_rank (h : a.FieldsReadable) : ∃ x, a.HasRank x := by
  obtain ⟨standing, has⟩ := h.exists_standing
  exact ⟨⟨standing, a.metadata⟩, has, rfl⟩

namespace HasRank

/-- **The strict order is the order of the ranks.** -/
theorem strictOrder_eq_compare (h : a.HasRank x) (h' : b.HasRank y) :
    a.strictOrder b = .ok (x.compare y) := by
  rw [strictOrder, h.standing.precedence_eq_compare h'.standing, Rank.compare, compareLex, compareOn,
    h.metadata, h'.metadata]
  rfl

/-- Well-formed versions with the same rank are the same. -/
theorem eq_iff (h : a.HasRank x) (h' : b.HasRank y) (wellFormed : a.WellFormed)
    (wellFormed' : b.WellFormed) : x = y ↔ a = b := by
  have standing := h.standing.eq_iff h'.standing wellFormed wellFormed'
  rw [Rank.ext_iff, standing, h.metadata, h'.metadata, Version.mk.injEq]
  tauto

end HasRank

end Version

/-! ## Relations -/

/-- A relation holds when the strict order admits it, provided that only equal versions tie. -/
theorem holds_eq_admits {a b : Version} {order : Ordering} (compared : a.strictOrder b = .ok order)
    (tie : (a == b) = order.isEq) (relation : Relation) :
    relation.holds a b = .ok (relation.admits order) := by
  have lt : a.lt b = .ok order.isLT := by
    rw [Version.lt, compared]
    cases order <;> rfl
  cases relation with
  | lt => exact lt
  | le =>
      rw [Relation.holds, Version.le, lt, ok_bind, tie]
      cases order <;> rfl
  | gt =>
      rw [Relation.holds, Version.gt, lt, ok_bind, bne, tie]
      cases order <;> rfl
  | ge =>
      rw [Relation.holds, Version.ge, lt]
      cases order <;> rfl

/-- **The strict order is a total order of well-formed versions.**  Among well-formed versions whose
fields keep to the digit limit any two compare, only equal versions tie, swapping the versions
reverses the order, the order is transitive, strictly so when one of the two steps is strict, and it
never departs from precedence where that decides.  Equal versions are those with equal texts, as far
as the versions can be printed.  Every relation says what the order says, so exactly one of `<`, `=`
and `>` holds. -/
theorem strictOrder_isTotalOrder {a b c : Version} (wellFormed_a : a.WellFormed)
    (wellFormed_b : b.WellFormed) (readable_a : a.FieldsReadable) (readable_b : b.FieldsReadable)
    (readable_c : c.FieldsReadable) :
    ∃ ab bc ac : Ordering,
      a.strictOrder b = .ok ab ∧ b.strictOrder c = .ok bc ∧ a.strictOrder c = .ok ac ∧
      (ab = .eq ↔ a = b) ∧
      (a.Writable → b.Writable → ∃ text text', a.text = .ok text ∧ b.text = .ok text' ∧
        (a = b ↔ text = text')) ∧
      b.strictOrder a = .ok ab.swap ∧
      (ab.isLE → bc.isLE → ac.isLE ∧ (ab = .lt ∨ bc = .lt → ac = .lt)) ∧
      (∃ decided, a.precedence b = .ok decided ∧ (decided ≠ .eq → ab = decided)) ∧
      (a.lt b = .ok ab.isLT ∧ a.le b = .ok ab.isLE ∧ a.gt b = .ok ab.isGT ∧ a.ge b = .ok ab.isGE ∧
        (a == b) = ab.isEq ∧ (a != b) = ab.isNe) ∧
      (a.lt b = .ok true ∧ a ≠ b ∧ a.gt b = .ok false ∨
        a.lt b = .ok false ∧ a = b ∧ a.gt b = .ok false ∨
        a.lt b = .ok false ∧ a ≠ b ∧ a.gt b = .ok true) := by
  obtain ⟨x, ha⟩ := readable_a.exists_rank
  obtain ⟨y, hb⟩ := readable_b.exists_rank
  obtain ⟨z, hc⟩ := readable_c.exists_rank
  have compared := ha.strictOrder_eq_compare hb
  have equal : x.compare y = .eq ↔ a = b := by
    rw [Std.LawfulEqCmp.compare_eq_iff_eq, ha.eq_iff hb wellFormed_a wellFormed_b]
  have tie : (a == b) = (x.compare y).isEq := by
    rw [Bool.eq_iff_iff, beq_iff_eq, Ordering.isEq_iff_eq_eq, equal]
  have related := holds_eq_admits compared tie
  refine ⟨x.compare y, y.compare z, x.compare z, compared, hb.strictOrder_eq_compare hc,
    ha.strictOrder_eq_compare hc, equal, ?_, ?_, ?_, ?_, ?_, ?_⟩
  · intro writable_a writable_b
    obtain ⟨text, printed, read⟩ := wellFormed_a.exists_text writable_a
    obtain ⟨text', printed', read'⟩ := wellFormed_b.exists_text writable_b
    refine ⟨text, text', printed, printed', ?_, ?_⟩
    · rintro rfl
      exact Except.ok.inj (printed.symm.trans printed')
    · rintro rfl
      exact Except.ok.inj (read.symm.trans read')
  · rw [hb.strictOrder_eq_compare ha]
    exact congrArg Except.ok Std.OrientedCmp.eq_swap
  · intro ab bc
    refine ⟨Std.TransCmp.isLE_trans ab bc, ?_⟩
    rintro (strict | strict)
    · exact Std.TransCmp.lt_of_lt_of_isLE strict bc
    · exact Std.TransCmp.lt_of_isLE_of_lt ab strict
  · exact ⟨_, ha.standing.precedence_eq_compare hb.standing, Rank.compare_of_standing_ne⟩
  · refine ⟨related .lt, related .le, related .gt, related .ge, tie, ?_⟩
    rw [bne, tie]
    cases x.compare y <;> rfl
  · have lt : a.lt b = .ok (x.compare y).isLT := related .lt
    have gt : a.gt b = .ok (x.compare y).isGT := related .gt
    rw [lt, gt, ne_eq, ← equal]
    cases x.compare y <;> simp

/-- A field that is greater as a number but not as a text, and two versions of equal precedence. -/
theorem strictOrder_of_two_digits :
    (Version.WellFormed ⟨1, 0, 0, "rc.9", "b"⟩ ∧ Version.WellFormed ⟨1, 0, 0, "rc.10", ""⟩) ∧
    (Version.FieldsReadable ⟨1, 0, 0, "rc.9", "b"⟩ ∧
      Version.FieldsReadable ⟨1, 0, 0, "rc.10", ""⟩ ∧
      Version.FieldsReadable ⟨1, 0, 0, "rc.10", "a"⟩) ∧
    Version.strictOrder ⟨1, 0, 0, "rc.9", "b"⟩ ⟨1, 0, 0, "rc.10", ""⟩ = .ok .lt ∧
    Version.strictOrder ⟨1, 0, 0, "rc.10", ""⟩ ⟨1, 0, 0, "rc.10", "a"⟩ = .ok .lt ∧
    Version.strictOrder ⟨1, 0, 0, "rc.9", "b"⟩ ⟨1, 0, 0, "rc.10", "a"⟩ = .ok .lt ∧
    Version.gt ⟨1, 0, 0, "rc.9", "b"⟩ ⟨1, 0, 0, "rc.10", ""⟩ = .ok false := by
  have nine : Version.WellFormed ⟨1, 0, 0, "rc.9", "b"⟩ := by decide +kernel
  have ten : Version.WellFormed ⟨1, 0, 0, "rc.10", ""⟩ := by decide +kernel
  have readable_nine : Version.FieldsReadable ⟨1, 0, 0, "rc.9", "b"⟩ := by decide +kernel
  have readable_ten : Version.FieldsReadable ⟨1, 0, 0, "rc.10", ""⟩ := by decide +kernel
  have readable_tagged : Version.FieldsReadable ⟨1, 0, 0, "rc.10", "a"⟩ := by decide +kernel
  have first : Version.strictOrder ⟨1, 0, 0, "rc.9", "b"⟩ ⟨1, 0, 0, "rc.10", ""⟩ = .ok .lt := by rfl
  have second : Version.strictOrder ⟨1, 0, 0, "rc.10", ""⟩ ⟨1, 0, 0, "rc.10", "a"⟩ = .ok .lt := by
    rfl
  obtain ⟨ab, bc, ac, hab, hbc, hac, -, -, -, trans, -, ⟨-, -, gt, -⟩, -⟩ :=
    strictOrder_isTotalOrder nine ten readable_nine readable_ten readable_tagged
  obtain rfl := Except.ok.inj (first.symm.trans hab)
  obtain rfl := Except.ok.inj (second.symm.trans hbc)
  rw [(trans rfl rfl).2 (.inl rfl)] at hac
  exact ⟨⟨nine, ten⟩, ⟨readable_nine, readable_ten, readable_tagged⟩, first, second, hac, gt⟩

-- without well-formedness each of two versions can come behind the other
example : Version.gt ⟨1, 0, 0, "rc.01", ""⟩ ⟨1, 0, 0, "rc.1", ""⟩ = .ok true ∧
    Version.gt ⟨1, 0, 0, "rc.1", ""⟩ ⟨1, 0, 0, "rc.01", ""⟩ = .ok true := by
  constructor <;> rfl

end SemanticVersion
