import Mathlib.Data.List.Forall2
import SemanticVersion.Error

/-!
# When an operation succeeds

Operations that can fail are put together from smaller ones, and the whole succeeds exactly when all
of its pieces do.

* `bind_eq_ok_iff`, `bind_eq_error_iff` — one operation after the other.
* `liftM_eq_ok_iff` — a conversion within an operation on versions.
* `toOption_eq_some_iff` — the result without the reason of a failure.
* `mapM_eq_ok_iff`, `exists_mapM_eq_ok_iff` — one operation for each item of a list.
* `exists_mem_of_mapM_eq_ok` — where the results come from.

The reason why an operation fails is put together in the same way.

* `failure?` — the reason, if there is one.
* `failure?_bind`, `failure?_mapM` — the reason of a composed operation is that of its first failure.
-/

namespace SemanticVersion

variable {ε α β : Type}

lemma ok_bind (a : α) (next : α → Except ε β) : (Except.ok a >>= next) = next a := rfl

theorem bind_eq_ok_iff {first : Except ε α} {next : α → Except ε β} {b : β} :
    first >>= next = .ok b ↔ ∃ a, first = .ok a ∧ next a = .ok b := by
  cases first with
  | error e => simp [bind, Except.bind]
  | ok a => simp [bind, Except.bind]

theorem bind_eq_error_iff {first : Except ε α} {next : α → Except ε β} {e : ε} :
    first >>= next = .error e ↔ first = .error e ∨ ∃ a, first = .ok a ∧ next a = .error e := by
  cases first with
  | error e => simp [bind, Except.bind]
  | ok a => simp [bind, Except.bind]

lemma map_eq_ok_iff {x : Except ε α} {f : α → β} {b : β} :
    f <$> x = .ok b ↔ ∃ a, x = .ok a ∧ f a = b := by
  cases x <;> simp [Functor.map, Except.map]

lemma liftM_eq_ok_iff {x : Except DigitLimit α} {a : α} :
    (liftM x : Except Error α) = .ok a ↔ x = .ok a := by
  cases x <;> simp

@[simp] lemma toOption_eq_some_iff {x : Except ε α} {a : α} : x.toOption = some a ↔ x = .ok a := by
  cases x <;> simp [Except.toOption]

@[simp] lemma toOption_eq_none_iff {x : Except ε α} : x.toOption = none ↔ ∀ a, x ≠ .ok a := by
  cases x <;> simp [Except.toOption]

/-- Every item of the list succeeds with the result in the same place. -/
theorem mapM_eq_ok_iff {f : α → Except ε β} {xs : List α} {ys : List β} :
    xs.mapM f = .ok ys ↔ List.Forall₂ (fun x y => f x = .ok y) xs ys := by
  induction xs generalizing ys with
  | nil => simp [pure, Except.pure, eq_comm]
  | cons x xs ih =>
      rw [List.mapM_cons, bind_eq_ok_iff, List.forall₂_cons_left_iff]
      constructor
      · rintro ⟨y, head, tail⟩
        obtain ⟨rest, mapped, same⟩ := bind_eq_ok_iff.1 tail
        exact ⟨y, rest, head, ih.1 mapped, (Except.ok.inj same).symm⟩
      · rintro ⟨y, rest, head, tail, rfl⟩
        exact ⟨y, head, bind_eq_ok_iff.2 ⟨rest, ih.2 tail, rfl⟩⟩

/-- The last item comes after all others. -/
lemma mapM_concat_eq_ok_iff {f : α → Except ε β} {xs : List α} {x : α} {zs : List β} :
    (xs ++ [x]).mapM f = .ok zs ↔ ∃ ys y, xs.mapM f = .ok ys ∧ f x = .ok y ∧ ys ++ [y] = zs := by
  rw [List.mapM_append]
  simp only [bind_eq_ok_iff, List.mapM_cons, List.mapM_nil, pure, Except.pure, Except.ok.injEq]
  constructor
  · rintro ⟨ys, init, _, ⟨y, last, _, rfl, rfl⟩, rfl⟩
    exact ⟨ys, y, init, last, rfl⟩
  · rintro ⟨ys, y, init, last, rfl⟩
    exact ⟨ys, init, _, ⟨y, last, _, rfl, rfl⟩, rfl⟩

/-- A list can be mapped when every item can. -/
theorem exists_mapM_eq_ok_iff {f : α → Except ε β} {xs : List α} :
    (∃ ys, xs.mapM f = .ok ys) ↔ ∀ x ∈ xs, ∃ y, f x = .ok y := by
  simp only [mapM_eq_ok_iff]
  induction xs with
  | nil => simp
  | cons x xs ih =>
      rw [List.forall_mem_cons, ← ih]
      constructor
      · rintro ⟨_, ⟨⟩⟩
        next head tail => exact ⟨⟨_, head⟩, _, tail⟩
      · rintro ⟨⟨y, head⟩, ys, tail⟩
        exact ⟨y :: ys, .cons head tail⟩

/-- Every result comes from an item. -/
theorem exists_mem_of_mapM_eq_ok {f : α → Except ε β} {xs : List α} {ys : List β}
    (mapped : xs.mapM f = .ok ys) : ∀ y ∈ ys, ∃ x ∈ xs, f x = .ok y := by
  have pointwise := mapM_eq_ok_iff.1 mapped
  clear mapped
  induction pointwise with
  | nil => simp
  | cons head tail ih =>
      rw [List.forall_mem_cons]
      refine ⟨⟨_, List.mem_cons_self, head⟩, fun y mem => ?_⟩
      obtain ⟨x, mem', result⟩ := ih y mem
      exact ⟨x, List.mem_cons_of_mem _ mem', result⟩

/-- What is made of a result is there when the result is. -/
lemma exists_bind_pure_eq_ok_iff {x : Except ε α} {f : α → β} :
    (∃ b, (x >>= fun a => pure (f a)) = .ok b) ↔ ∃ a, x = .ok a := by
  simp [bind_eq_ok_iff, pure, Except.pure]

/-! ## Why an operation fails -/

/-- Why an operation fails, if it does. -/
def failure? : Except ε α → Option ε
  | .ok _ => none
  | .error e => some e

theorem failure?_eq_none_iff {x : Except ε α} : failure? x = none ↔ ∃ a, x = .ok a := by
  cases x <;> simp [failure?]

theorem failure?_eq_some_iff {x : Except ε α} {e : ε} : failure? x = some e ↔ x = .error e := by
  cases x <;> simp [failure?]

/-- An operation after another one is asked for its reason only when the first one succeeds. -/
lemma failure?_bind (x : Except ε α) (next : α → Except ε β) (later : Option ε)
    (after : ∀ a, x = .ok a → failure? (next a) = later) :
    failure? (x >>= next) = (failure? x).or later := by
  cases x with
  | error e => rfl
  | ok a => exact after a rfl

/-- What is made of a result adds no failure. -/
lemma failure?_bind_pure (x : Except ε α) (f : α → β) :
    failure? (x >>= fun a => pure (f a)) = failure? x := by
  cases x <;> rfl

lemma failure?_liftM (x : Except DigitLimit α) :
    failure? (liftM x : Except Error α) = (failure? x).map .digitLimit := by
  cases x <;> rfl

/-- A list is mapped up to the first item that fails. -/
theorem failure?_mapM (f : α → Except ε β) (xs : List α) :
    failure? (xs.mapM f) = xs.findSome? fun x => failure? (f x) := by
  induction xs with
  | nil => rfl
  | cons x xs ih =>
      rw [List.mapM_cons, List.findSome?_cons]
      cases f x with
      | error e => rfl
      | ok y =>
          show failure? (xs.mapM f >>= fun ys => pure (y :: ys)) = _
          rw [failure?_bind_pure, ih]
          rfl

end SemanticVersion
