import Mathlib.Algebra.Group.Nat.Defs
import Mathlib.Order.Bounds.Basic
import SemanticVersion.Divergence

/-!
# What the divergence search finds

The search halves a window of lengths and never looks at the predicate as a whole, so for an
arbitrary predicate it can only find a *local* boundary: a viable length with a length behind it
that is not viable.  When viability is inherited by smaller lengths there is one boundary only, and
it is the greatest viable length.  Either way the number of questions is logarithmic.

* `IsWindow` — the invariant of the search: what is known at both ends of its window.
* `IsWindow.upper`, `IsWindow.lower` — one halving keeps it, whichever half is taken.
* `searchFrom_isBoundary`, `divergence_isBoundary` — what a whole search finds.
* `length_probes_searchFrom_le` — how many lengths it asks about.
* `IsBoundary.isGreatest_or` — a boundary of a predicate that is inherited by smaller lengths.
* `divergence_finds_boundary` — all of this about the prefixes of a text.
-/

namespace SemanticVersion

/-- A viable length below the limit with no viable length behind it, and zero when even zero is not
viable. -/
def IsBoundary (viable : Nat → Bool) (limit found : Nat) : Prop :=
  found < limit ∧ (found = 0 ∧ viable 0 = false ∨
    viable found = true ∧ (found + 1 = limit ∨ viable (found + 1) = false))

/-- What the search knows about its window.  Below it stands the last length that was viable, and
above it a length that is not viable or the limit. -/
structure IsWindow (viable : Nat → Bool) (limit found low stop : Nat) : Prop where
  low_le : low ≤ stop
  stop_le : stop ≤ limit
  below : low = 0 ∧ found = 0 ∨ low = found + 1 ∧ viable found = true
  above : stop = limit ∨ viable stop = false

namespace IsWindow

variable {viable : Nat → Bool} {limit found low stop middle : Nat}

/-- The search goes on above a viable length. -/
lemma upper (h : IsWindow viable limit found low stop) (hm : middle < stop)
    (yes : viable middle = true) : IsWindow viable limit middle (middle + 1) stop where
  low_le := hm
  stop_le := h.stop_le
  below := .inr ⟨rfl, yes⟩
  above := h.above

/-- The search goes on below a length that is not viable. -/
lemma lower (h : IsWindow viable limit found low stop) (hl : low ≤ middle) (hm : middle < stop)
    (no : viable middle = false) : IsWindow viable limit found low middle where
  low_le := hl
  stop_le := hm.le.trans h.stop_le
  below := h.below
  above := .inr no

/-- When the window is empty its two ends have met at a boundary. -/
lemma isBoundary (h : IsWindow viable limit found low stop) (positive : 0 < limit)
    (empty : ¬ low < stop) : IsBoundary viable limit found := by
  obtain ⟨low_le, stop_le, below, above⟩ := h
  obtain rfl : stop = low := by omega
  rcases below with ⟨rfl, rfl⟩ | ⟨rfl, yes⟩
  · have no : viable 0 = false := above.resolve_left (by omega)
    exact ⟨positive, .inl ⟨rfl, no⟩⟩
  · exact ⟨stop_le, .inr ⟨yes, above⟩⟩

end IsWindow

variable {viable : Nat → Bool} {limit : Nat}

/-- A search that starts with a window of its own finds a boundary. -/
theorem searchFrom_isBoundary (positive : 0 < limit) {found low stop : Nat}
    (h : IsWindow viable limit found low stop) :
    IsBoundary viable limit (searchFrom viable found low stop).found := by
  fun_induction searchFrom viable found low stop with
  | case1 found low stop window middle yes ih => exact ih (h.upper (by omega) yes)
  | case2 found low stop window middle no ih =>
      exact ih (h.lower (by omega) (by omega) (by simpa using no))
  | case3 found low stop empty => exact h.isBoundary positive empty

/-- **The search finds a boundary**, whatever the predicate. -/
theorem divergence_isBoundary (text : String) (viable : String → Bool) :
    IsBoundary (fun length => viable (leadingText text length)) (text.length + 1)
      (divergence text viable).found :=
  searchFrom_isBoundary (by omega) ⟨by omega, le_rfl, .inl ⟨rfl, rfl⟩, .inl rfl⟩

/-- Every question halves the window, so there are no more questions than the window has binary
digits. -/
theorem length_probes_searchFrom_le (found low stop : Nat) : ∀ digits, stop - low < 2 ^ digits →
    (searchFrom viable found low stop).probes.length ≤ digits := by
  fun_induction searchFrom viable found low stop with
  | case1 found low stop window middle answer ih
  | case2 found low stop window middle answer ih =>
      -- a window that is not empty has a digit to spare
      rintro (- | digits) h
      · omega
      · rw [Nat.pow_succ] at h
        exact Nat.succ_le_succ (ih digits (by omega))
  | case3 found low stop empty =>
      intro digits h
      exact Nat.zero_le digits

/-- When viability is inherited by smaller lengths below the limit, a boundary is the greatest viable
length, and zero when there is none. -/
theorem IsBoundary.isGreatest_or {found : Nat} (h : IsBoundary viable limit found)
    (inherited : ∀ m n, m ≤ n → n < limit → viable n = true → viable m = true) :
    IsGreatest {n | n < limit ∧ viable n = true} found ∨
      found = 0 ∧ ∀ n < limit, viable n = false := by
  obtain ⟨below, ⟨rfl, no⟩ | ⟨yes, edge⟩⟩ := h
  · refine .inr ⟨rfl, fun n n_below => ?_⟩
    by_contra n_viable
    have zero := inherited 0 n (Nat.zero_le n) n_below (by simpa using n_viable)
    rw [zero] at no
    contradiction
  · refine .inl ⟨⟨below, yes⟩, fun n ⟨n_below, n_viable⟩ => ?_⟩
    by_contra beyond
    have next := inherited (found + 1) n (by omega) n_below n_viable
    rcases edge with edge | edge
    · omega
    · rw [next] at edge
      contradiction

/-- The same when zero is known to be viable. -/
theorem IsBoundary.isGreatest {found : Nat} (h : IsBoundary viable limit found)
    (zero : viable 0 = true) (inherited : ∀ m n, m ≤ n → viable n = true → viable m = true) :
    IsGreatest {n | n < limit ∧ viable n = true} found := by
  refine (h.isGreatest_or fun m n le _ => inherited m n le).resolve_right ?_
  rintro ⟨-, none_viable⟩
  rw [none_viable 0 (Nat.zero_lt_of_lt h.1)] at zero
  contradiction

/-! ## Prefixes of a text -/

/-- **The search over the prefixes of a text.**  Whatever the predicate, the search comes to an end after
a number of questions that is logarithmic in the length, and it finds a length within the text.  The
prefix of this length is viable and the one behind it is not, or it is the whole text; or the search
finds zero, and not even the empty text is viable.  When every prefix of a viable prefix is viable, the
length found is the greatest one of a viable prefix, and zero when there is no viable prefix. -/
theorem divergence_finds_boundary (text : String) (viable : String → Bool) :
    (divergence text viable).probes.length ≤ Nat.log2 (text.length + 1) + 1 ∧
    (divergence text viable).found ≤ text.length ∧
    ((divergence text viable).found = 0 ∧ viable "" = false ∨
      viable (leadingText text (divergence text viable).found) = true ∧
        ((divergence text viable).found = text.length ∨
          viable (leadingText text ((divergence text viable).found + 1)) = false)) ∧
    ((∀ m n, m ≤ n → n ≤ text.length →
        viable (leadingText text n) = true → viable (leadingText text m) = true) →
      IsGreatest {n | n ≤ text.length ∧ viable (leadingText text n) = true}
        (divergence text viable).found ∨
      (divergence text viable).found = 0 ∧
        ∀ n ≤ text.length, viable (leadingText text n) = false) := by
  have boundary := divergence_isBoundary text viable
  refine ⟨length_probes_searchFrom_le _ _ _ _ Nat.lt_log2_self, Nat.lt_succ_iff.1 boundary.1, ?_, ?_⟩
  · rcases boundary.2 with ⟨start, no⟩ | ⟨yes, edge⟩
    · exact .inl ⟨start, no⟩
    · exact .inr ⟨yes, edge.imp_left Nat.succ.inj⟩
  · intro inherited
    have greatest := boundary.isGreatest_or fun m n le below => inherited m n le (by omega)
    simpa only [Nat.lt_succ_iff] using greatest

/-- A predicate that is inherited by prefixes, and one that holds of the empty and of the whole text only.
There the search stops behind the empty text, though the whole text is viable. -/
theorem divergence_of_short_texts :
    ((divergence "abcx" fun text => text.toList.isPrefixOf "abcd".toList).found = 3 ∧
      IsGreatest {n | n ≤ "abcx".length ∧
        (leadingText "abcx" n).toList.isPrefixOf "abcd".toList = true} 3) ∧
    (divergence "abcd" fun text => text == "" || text == "abcd").found = 0 ∧
    (leadingText "abcd" (0 + 1) == "" || leadingText "abcd" (0 + 1) == "abcd") = false := by
  have found : (divergence "abcx" fun text => text.toList.isPrefixOf "abcd".toList).found = 3 := by
    decide +kernel
  have start : (divergence "abcd" fun text => text == "" || text == "abcd").found = 0 := by
    decide +kernel
  have inherited : ∀ n ≤ "abcx".length, ∀ m ≤ n,
      (leadingText "abcx" n).toList.isPrefixOf "abcd".toList = true →
      (leadingText "abcx" m).toList.isPrefixOf "abcd".toList = true := by
    decide +kernel
  obtain ⟨-, -, -, greatest⟩ :=
    divergence_finds_boundary "abcx" fun text => text.toList.isPrefixOf "abcd".toList
  obtain ⟨-, -, boundary, -⟩ :=
    divergence_finds_boundary "abcd" fun text => text == "" || text == "abcd"
  rw [found] at greatest
  rw [start] at boundary
  refine ⟨⟨found, ?_⟩, start, ?_⟩
  · exact (greatest fun m n le within => inherited n within m le).resolve_right (by decide)
  · rcases boundary with ⟨-, no⟩ | ⟨-, whole | edge⟩
    · contradiction
    · contradiction
    · exact edge

end SemanticVersion
