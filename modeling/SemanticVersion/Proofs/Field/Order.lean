import SemanticVersion.Field

/-!
# The order of fields

Numbers come before texts, numbers are ordered by value and texts by their characters.  This is a
total order of fields, and lists of fields are ordered lexicographically by it.

* `Field.compare` and `compareFields` are total orders, of which only equal arguments are ties.
* `compareFields_eq_compareLex` — comparing lists of fields is lexicographic comparison.
-/

namespace SemanticVersion

namespace Field

instance : Std.OrientedCmp Field.compare where
  eq_swap {a b} := by
    cases a with
    | numeric m =>
        cases b with
        | numeric n => exact Std.OrientedOrd.eq_swap
        | alphanumeric t => rfl
    | alphanumeric s =>
        cases b with
        | numeric n => rfl
        | alphanumeric t => exact Std.OrientedOrd.eq_swap

instance : Std.TransCmp Field.compare where
  isLE_trans {a b c} ab bc := by
    -- fields of one kind are compared by their values, and of different kinds the number is smaller
    cases a with
    | numeric m =>
        cases c with
        | numeric k =>
            cases b with
            | numeric n => exact Std.TransOrd.isLE_trans ab bc
            | alphanumeric t => contradiction
        | alphanumeric u => rfl
    | alphanumeric s =>
        cases b with
        | numeric n => contradiction
        | alphanumeric t =>
            cases c with
            | numeric k => contradiction
            | alphanumeric u => exact Std.TransOrd.isLE_trans ab bc

instance : Std.LawfulEqCmp Field.compare where
  compare_self {a} := by
    cases a with
    | numeric m => exact Std.ReflOrd.compare_self
    | alphanumeric s => exact Std.ReflOrd.compare_self
  eq_of_compare {a b} tie := by
    cases a with
    | numeric m =>
        cases b with
        | numeric n => exact congrArg numeric (Std.LawfulEqOrd.eq_of_compare tie)
        | alphanumeric t => contradiction
    | alphanumeric s =>
        cases b with
        | numeric n => contradiction
        | alphanumeric t => exact congrArg alphanumeric (Std.LawfulEqOrd.eq_of_compare tie)

end Field

theorem compareFields_eq_compareLex : compareFields = List.compareLex Field.compare := by
  funext xs ys
  induction xs generalizing ys with
  | nil => cases ys <;> rfl
  | cons x xs ih =>
      cases ys with
      | nil => rfl
      | cons y ys => rw [compareFields, List.compareLex_cons_cons, ih]

instance : Std.TransCmp compareFields := by
  rw [compareFields_eq_compareLex]
  infer_instance

instance : Std.LawfulEqCmp compareFields := by
  rw [compareFields_eq_compareLex]
  infer_instance

end SemanticVersion
