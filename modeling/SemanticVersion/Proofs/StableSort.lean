import Mathlib.Tactic.Common

/-!
# Stable sorting by a comparison

What is known about merge sort is stated for a Boolean relation that is total and transitive.  Here
the relation comes from a comparison with three outcomes, and the laws of the comparison give the two
conditions once and for all.

* `sortBy` — the stable sort by a comparison.
* `pairwise_sortBy`, `filter_sortBy` — the result is in order, and items that tie stay as they were.
* `sortBy_eq_self` — a list that is in order already stays what it is.
* `IsFirstLeast` — the first of the least items of a list.
* `isFirstLeast_foldl`, `head?_sortBy` — **one walk through the list finds it, and so does sorting.**
-/

namespace SemanticVersion

variable {α : Type}

/-- The items in the order of a comparison.  Items that tie keep their places among themselves. -/
def sortBy (cmp : α → α → Ordering) (xs : List α) : List α :=
  xs.mergeSort fun x y => (cmp x y).isLE

/-- The item stands in front of all that tie with it, and no item is less. -/
def IsFirstLeast (cmp : α → α → Ordering) (xs : List α) (least : α) : Prop :=
  ∃ before after, xs = before ++ least :: after ∧
    (∀ x ∈ before, cmp x least = .gt) ∧ ∀ x ∈ after, (cmp x least).isGE

/-- The lesser of two items, and the first one when they tie. -/
def lesser (cmp : α → α → Ordering) (x y : α) : α :=
  if cmp y x = .lt then y else x

variable {cmp : α → α → Ordering}

lemma perm_sortBy (xs : List α) : (sortBy cmp xs).Perm xs :=
  List.mergeSort_perm xs _

lemma sortBy_eq_self {xs : List α} (ordered : xs.Pairwise fun x y => (cmp x y).isLE) :
    sortBy cmp xs = xs :=
  List.mergeSort_of_pairwise ordered

lemma IsFirstLeast.mem {xs : List α} {least : α} (h : IsFirstLeast cmp xs least) : least ∈ xs := by
  obtain ⟨before, after, rfl, -, -⟩ := h
  simp

/-- An item that is greater may come in front. -/
lemma IsFirstLeast.cons {xs : List α} {x least : α} (h : IsFirstLeast cmp xs least)
    (greater : cmp x least = .gt) : IsFirstLeast cmp (x :: xs) least := by
  obtain ⟨before, after, rfl, strict, weak⟩ := h
  exact ⟨x :: before, after, rfl, List.forall_mem_cons.2 ⟨greater, strict⟩, weak⟩

section Laws

variable [Std.TransCmp cmp]

lemma isLE_total (x y : α) : ((cmp x y).isLE || (cmp y x).isLE) = true := by
  have swapped : cmp y x = (cmp x y).swap := Std.OrientedCmp.eq_swap
  rw [swapped]
  cases cmp x y <;> rfl

theorem pairwise_sortBy (xs : List α) : (sortBy cmp xs).Pairwise fun x y => (cmp x y).isLE :=
  List.pairwise_mergeSort (fun _ _ _ => Std.TransCmp.isLE_trans) isLE_total xs

/-- **The sort is stable.**  Items that tie with each other are sorted to the same list as before. -/
theorem filter_sortBy {xs : List α} {selected : α → Bool}
    (tied : ∀ x ∈ xs, ∀ y ∈ xs, selected x → selected y → cmp x y = .eq) :
    (sortBy cmp xs).filter selected = xs.filter selected := by
  have ordered : (xs.filter selected).Pairwise fun x y => (cmp x y).isLE := by
    refine List.pairwise_of_forall_mem_list fun x hx y hy => ?_
    rw [List.mem_filter] at hx hy
    exact Ordering.isLE_of_eq_eq (tied x hx.1 y hy.1 hx.2 hy.2)
  have kept : (xs.filter selected).Sublist (sortBy cmp xs) :=
    List.sublist_mergeSort (fun _ _ _ => Std.TransCmp.isLE_trans) isLE_total ordered
      List.filter_sublist
  have among := kept.filter selected
  simp only [List.filter_filter, Bool.and_self] at among
  exact (among.eq_of_length ((perm_sortBy xs).filter selected).length_eq.symm).symm

namespace IsFirstLeast

variable {xs : List α} {least : α} (h : IsFirstLeast cmp xs least)
include h

lemma isGE : ∀ x ∈ xs, (cmp x least).isGE := by
  obtain ⟨before, after, rfl, strict, weak⟩ := h
  intro x hx
  rcases List.mem_append.1 hx with front | back
  · rw [strict x front]
    rfl
  · rcases List.mem_cons.1 back with rfl | back
    · exact Ordering.isGE_of_eq_eq Std.ReflCmp.compare_self
    · exact weak x back

/-- Among the items that tie with the least one it comes first, and sorting does not change that. -/
lemma find?_sortBy : (sortBy cmp xs).find? (fun x => (cmp x least).isEq) = some least := by
  have stable : (sortBy cmp xs).filter (fun x => (cmp x least).isEq) =
      xs.filter fun x => (cmp x least).isEq := by
    refine filter_sortBy fun x _ y _ tie tie' => ?_
    rw [Ordering.isEq_iff_eq_eq] at tie tie'
    exact Std.TransCmp.eq_trans tie (Std.OrientedCmp.eq_symm tie')
  obtain ⟨before, after, rfl, strict, -⟩ := h
  rw [← List.head?_filter, stable, List.head?_filter, List.find?_eq_some_iff_append]
  refine ⟨?_, before, after, rfl, fun x hx => ?_⟩
  · exact Ordering.isEq_iff_eq_eq.2 Std.ReflCmp.compare_self
  · rw [strict x hx]
    rfl

/-- **The first of the least items is the head of the sorted list.** -/
theorem head?_sortBy : (sortBy cmp xs).head? = some least := by
  have found := h.find?_sortBy
  have ordered : (sortBy cmp xs).Pairwise fun x y => (cmp x y).isLE := pairwise_sortBy xs
  have least_mem : least ∈ sortBy cmp xs := (perm_sortBy xs).mem_iff.2 h.mem
  cases sorted : sortBy cmp xs with
  | nil =>
      rw [sorted] at least_mem
      contradiction
  | cons head rest =>
      rw [sorted] at found ordered least_mem
      have low : (cmp head least).isLE := by
        rcases List.mem_cons.1 least_mem with rfl | later
        · exact Ordering.isLE_of_eq_eq Std.ReflCmp.compare_self
        · exact (List.pairwise_cons.1 ordered).1 least later
      have head_mem : head ∈ xs := by
        rw [← (perm_sortBy xs).mem_iff, sorted]
        exact List.mem_cons_self
      have tie : (cmp head least).isEq = true :=
        Ordering.isEq_iff_eq_eq.2 (Ordering.eq_eq_of_isLE_of_isGE low (h.isGE head head_mem))
      rwa [List.find?_cons_of_pos (p := fun x => (cmp x least).isEq) tie] at found

end IsFirstLeast

/-- Behind the first item there may come another one that is not less. -/
lemma IsFirstLeast.insert {xs : List α} {x y least : α} (h : IsFirstLeast cmp (x :: xs) least)
    (weak : (cmp y x).isGE) : IsFirstLeast cmp (x :: y :: xs) least := by
  obtain ⟨before, after, same, strict, rest⟩ := h
  cases before with
  | nil =>
      obtain ⟨rfl, rfl⟩ := List.cons.inj same
      exact ⟨[], y :: xs, rfl, nofun, List.forall_mem_cons.2 ⟨weak, rest⟩⟩
  | cons head before =>
      obtain ⟨rfl, rfl⟩ := List.cons.inj same
      have greater : cmp x least = .gt := strict x List.mem_cons_self
      have greater' : cmp y least = .gt := Std.TransCmp.gt_of_isGE_of_gt weak greater
      refine ⟨x :: y :: before, after, rfl, ?_, rest⟩
      rw [List.forall_mem_cons] at strict
      exact List.forall_mem_cons.2 ⟨greater, List.forall_mem_cons.2 ⟨greater', strict.2⟩⟩

/-- **One walk through the list finds the first of the least items.** -/
theorem isFirstLeast_foldl (x : α) (xs : List α) :
    IsFirstLeast cmp (x :: xs) (xs.foldl (lesser cmp) x) := by
  induction xs generalizing x with
  | nil => exact ⟨[], [], rfl, nofun, nofun⟩
  | cons y xs ih =>
      rw [List.foldl_cons, lesser]
      split
      · next less =>
          have bound := (ih y).isGE y List.mem_cons_self
          exact (ih y).cons (Std.TransCmp.gt_of_gt_of_isGE (Std.OrientedCmp.gt_of_lt less) bound)
      · next weak => exact (ih x).insert (Ordering.ne_lt_iff_isGE.1 weak)

end Laws

end SemanticVersion
