import SemanticVersion.Proofs.Version.PrecedenceOrder

/-!
# Strictly lower precedence

Precedence is not always there: two pre-releases of the same numbers have none when a field of them is
too long to be read.  But **when one version comes before a second and the second before a third, then
the first comes before the third**, without any condition on the fields.  For either the numbers decide,
or the third version is stable, or the fields of all three versions have been read.

* `Version.Precedes` — the relation.
* `compareNumbers_eq_lt_iff`, `compareNumbers_eq_eq_iff` — the order of the numbers.
* `precedes_iff` — what decides.
* `Precedes.trans`, `Precedes.ne` — it is a strict order of all versions.
-/

namespace SemanticVersion

namespace Version

/-- The first version has lower precedence than the second. -/
def Precedes (a b : Version) : Prop :=
  a.precedence b = .ok .lt

variable {a b c : Version}

/-! ## The numbers -/

instance : Std.TransCmp compareNumbers :=
  inferInstanceAs (Std.TransCmp
    (compareLex (compareOn major) (compareLex (compareOn minor) (compareOn patch))))

lemma compareNumbers_eq_lt_iff : a.compareNumbers b = .lt ↔ a.major < b.major ∨
    a.major = b.major ∧ (a.minor < b.minor ∨ a.minor = b.minor ∧ a.patch < b.patch) := by
  simp only [compareNumbers, Ordering.then_eq_lt, Std.LawfulEqCmp.compare_eq_iff_eq,
    Std.compare_eq_lt]

lemma compareNumbers_eq_eq_iff : a.compareNumbers b = .eq ↔
    a.major = b.major ∧ a.minor = b.minor ∧ a.patch = b.patch := by
  simp only [compareNumbers, Ordering.then_eq_eq, Std.LawfulEqCmp.compare_eq_iff_eq]

/-! ## The relation -/

/-- The numbers decide, then stability, and at last the fields. -/
theorem precedes_iff : a.Precedes b ↔ a.compareNumbers b = .lt ∨
    a.compareNumbers b = .eq ∧ a.isStable = false ∧ (b.isStable = true ∨
      b.isStable = false ∧ ∃ fields fields', a.prereleaseFields = .ok fields ∧
        b.prereleaseFields = .ok fields' ∧ compareFields fields fields' = .lt) := by
  rw [Precedes, precedence]
  cases numbers : a.compareNumbers b with
  | lt => simp [pure, Except.pure]
  | gt => simp [pure, Except.pure]
  | eq =>
      cases stable : a.isStable with
      | true =>
          -- a stable version ties with a stable one and comes behind a pre-release
          cases b.isStable with
          | true => simp [pure, Except.pure]
          | false =>
              have behind : compare true false = Ordering.gt := rfl
              simp [pure, Except.pure, behind]
      | false =>
          cases b.isStable with
          | true =>
              have before : compare false true = Ordering.lt := rfl
              simp [pure, Except.pure, before]
          | false =>
              simp only [Bool.or_self, Bool.false_eq_true, if_false, bind_eq_ok_iff, pure, Except.pure]
              simp

/-- A version is not lower than itself. -/
theorem Precedes.ne (h : a.Precedes b) : a ≠ b := by
  rintro rfl
  have numbers : a.compareNumbers a = .eq := Std.ReflCmp.compare_self
  rcases precedes_iff.1 h with lower | ⟨-, unstable, stable | ⟨-, fields, again, read, reread, lower⟩⟩
  · rw [numbers] at lower
    contradiction
  · rw [stable] at unstable
    contradiction
  · obtain rfl := Except.ok.inj (read.symm.trans reread)
    have tie : compareFields fields fields = .eq := Std.ReflCmp.compare_self
    rw [tie] at lower
    contradiction

/-- Lower precedence is transitive, whether or not all fields can be read. -/
theorem Precedes.trans (h : a.Precedes b) (h' : b.Precedes c) : a.Precedes c := by
  rw [precedes_iff] at h h' ⊢
  rcases h with lower | ⟨same, unstable, later⟩
  · rcases h' with lower' | ⟨same', -⟩
    · exact .inl (Std.TransCmp.lt_trans lower lower')
    · exact .inl (Std.TransCmp.lt_of_lt_of_eq lower same')
  · rcases h' with lower' | ⟨same', unstable', later'⟩
    · exact .inl (Std.TransCmp.lt_of_eq_of_lt same lower')
    · refine .inr ⟨Std.TransCmp.eq_trans same same', unstable, ?_⟩
      -- the version in the middle is no stable one, so its fields have been read
      rcases later with stable | ⟨-, fields, middle, read, read_middle, lower⟩
      · rw [stable] at unstable'
        contradiction
      · rcases later' with stable | ⟨unstable_last, middle', last, reread, read_last, lower'⟩
        · exact .inl stable
        · obtain rfl := Except.ok.inj (read_middle.symm.trans reread)
          exact .inr ⟨unstable_last, fields, last, read, read_last,
            Std.TransCmp.lt_trans lower lower'⟩

instance : Trans Precedes Precedes Precedes :=
  ⟨Precedes.trans⟩

end Version

end SemanticVersion
