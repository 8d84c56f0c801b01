import SemanticVersion.Proofs.Divergence.Boundary

/-!
# The questions of the divergence search

A question costs a scan of a prefix, so it matters which questions the search asks.

**Never twice.**  A question is the middle of the window, and the rest of the search goes on in a window
that lies wholly above it or wholly below it.  Hence all questions lie in the window the search starts
with (`mem_probes_searchFrom`), and none of them is asked again (`nodup_probes_searchFrom`).

**At least one.**  A text has one prefix more than it has characters, so the first window is never empty
(`probes_searchFrom_ne_nil`).

**Nothing unnoted.**  The noted lengths are all that the search learns of the predicate: a predicate that
answers them alike leads to the same search (`searchFrom_congr`).

None of this needs a predicate that is inherited by shorter prefixes.  With the number of questions from
`length_probes_searchFrom_le` this gives `divergence_never_asks_twice`.
-/

namespace SemanticVersion

variable {viable other : Nat → Bool} {found low stop length : Nat}

/-- Only lengths in the window are asked about. -/
theorem mem_probes_searchFrom (asked : length ∈ (searchFrom viable found low stop).probes) :
    low ≤ length ∧ length < stop := by
  fun_induction searchFrom viable found low stop with
  | case1 found low stop window middle answer ih
  | case2 found low stop window middle answer ih =>
      rcases List.mem_cons.1 asked with rfl | later
      · omega
      · have inside := ih later
        omega
  | case3 found low stop empty => simp at asked

/-- **No length is asked about twice.** -/
theorem nodup_probes_searchFrom (viable : Nat → Bool) (found low stop : Nat) :
    (searchFrom viable found low stop).probes.Nodup := by
  fun_induction searchFrom viable found low stop with
  | case1 found low stop window middle answer ih
  | case2 found low stop window middle answer ih =>
      -- neither the upper nor the lower half holds the middle itself
      refine List.nodup_cons.2 ⟨fun again => ?_, ih⟩
      have inside := mem_probes_searchFrom again
      omega
  | case3 found low stop empty => exact List.nodup_nil

/-- A window that is not empty has a middle to ask about. -/
lemma probes_searchFrom_ne_nil (viable : Nat → Bool) (found : Nat) (window : low < stop) :
    (searchFrom viable found low stop).probes ≠ [] := by
  fun_cases searchFrom viable found low stop with
  | case1 _ middle yes => exact List.cons_ne_nil middle _
  | case2 _ middle no => exact List.cons_ne_nil middle _
  | case3 empty => exact absurd window empty

/-- **The search knows a predicate by its answers to the noted lengths only.** -/
theorem searchFrom_congr
    (agree : ∀ length ∈ (searchFrom viable found low stop).probes, other length = viable length) :
    searchFrom other found low stop = searchFrom viable found low stop := by
  fun_induction searchFrom viable found low stop with
  | case1 found low stop window middle yes ih =>
      have answer : other middle = true := (agree middle List.mem_cons_self).trans yes
      have rest := ih fun length later => agree length (List.mem_cons_of_mem _ later)
      rw [searchFrom, if_pos window, if_pos answer, rest]
  | case2 found low stop window middle no ih =>
      have answer : ¬ other middle = true := by
        rwa [agree middle List.mem_cons_self]
      have rest := ih fun length later => agree length (List.mem_cons_of_mem _ later)
      rw [searchFrom, if_pos window, if_neg answer, rest]
  | case3 found low stop empty => rw [searchFrom, if_neg empty]

/-! ## Prefixes of a text -/

/-- A prefix within the text has the length it is asked for by. -/
lemma length_leadingText {text : String} (within : length ≤ text.length) :
    (leadingText text length).length = length := by
  rw [leadingText, String.length_ofList, List.length_take, String.length_toList]
  exact Nat.min_eq_left within

/-- **The search over the prefixes of a text asks few questions and none of them twice**, whatever the
predicate.  The lengths it asks about are lengths of prefixes of the text.  There is at least one of them,
and at most one more than the binary logarithm of the number of prefixes.  A predicate that gives the same
answers there leads to the same search. -/
theorem divergence_never_asks_twice (text : String) (viable : String → Bool) :
    (divergence text viable).probes.Nodup ∧
    (∀ length ∈ (divergence text viable).probes,
      length ≤ text.length ∧ (leadingText text length).length = length) ∧
    1 ≤ (divergence text viable).probes.length ∧
    (divergence text viable).probes.length ≤ Nat.log2 (text.length + 1) + 1 ∧
    ∀ other : String → Bool,
      (∀ length ∈ (divergence text viable).probes,
        other (leadingText text length) = viable (leadingText text length)) →
      divergence text other = divergence text viable := by
  refine ⟨nodup_probes_searchFrom _ _ _ _, ?_, ?_, ?_, ?_⟩
  · intro length asked
    have within : length ≤ text.length := Nat.lt_succ_iff.1 (mem_probes_searchFrom asked).2
    exact ⟨within, length_leadingText within⟩
  · exact List.length_pos_iff.2 (probes_searchFrom_ne_nil _ 0 (Nat.succ_pos text.length))
  · exact length_probes_searchFrom_le _ _ _ _ Nat.lt_log2_self
  · intro other agree
    exact searchFrom_congr agree

/-- Seven characters that are all viable take the greatest number of questions.  A predicate that rejects
the first character alone is not inherited by shorter prefixes, and the search cannot tell it from the one
that holds of every text. -/
theorem questions_of_seven_characters :
    (divergence "1.0.0-a" fun _ => true).probes = [3, 5, 6, 7] ∧
    [3, 5, 6, 7].Nodup ∧
    (7 ≤ "1.0.0-a".length ∧ (leadingText "1.0.0-a" 7).length = 7) ∧
    [3, 5, 6, 7].length = Nat.log2 ("1.0.0-a".length + 1) + 1 ∧
    (divergence "1.0.0-a" fun text => text != "1") = divergence "1.0.0-a" fun _ => true := by
  have probes : (divergence "1.0.0-a" fun _ => true).probes = [3, 5, 6, 7] := by
    decide +kernel
  obtain ⟨distinct, within, -, few, congr⟩ := divergence_never_asks_twice "1.0.0-a" fun _ => true
  rw [probes] at distinct within few congr
  refine ⟨probes, distinct, within 7 (by decide), ?_, congr _ (by decide +kernel)⟩
  exact le_antisymm few (by decide +kernel)

end SemanticVersion
