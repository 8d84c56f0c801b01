import SemanticVersion.Divergence
import SemanticVersion.Proofs.Grammar.Acceptance

/-!
# What the scanner says about continuations

A text that is no version is either unfinished or mismatched, and the scanner tells which by the
place where it stopped alone.  What stands in front of that place can always be continued to a
version.  The character behind it, if there is one, rules out every continuation, because the
scanner looked no further than to this character.

* `isViable_leadingText_position`, `not_isViable_leadingText_succ` — the two sides of the place.
* `isViable_eq_true_iff`, `IsViable.leadingText` — the scanner decides viability, and viability is
  inherited by all prefixes.
* `scan_state_iff_continuation` — the three states in terms of the continuations of a text.
-/

namespace SemanticVersion

/-! ## Prefixes of viable texts -/

lemma toList_leadingText (text : String) (length : Nat) :
    (leadingText text length).toList = text.toList.take length := by
  simp [leadingText]

lemma leadingText_append_drop (text : String) (length : Nat) :
    leadingText text length ++ String.ofList (text.toList.drop length) = text := by
  rw [← String.toList_inj]
  simp [toList_leadingText]

lemma leadingText_length (text : String) : leadingText text text.length = text := by
  rw [← String.toList_inj, toList_leadingText, ← String.length_toList, List.take_length]

lemma IsVersion.isViable {text : String} (h : IsVersion text) : IsViable text :=
  ⟨"", by simpa using h⟩

/-- A prefix of a viable text is viable: the rest of the text starts its continuation. -/
theorem IsViable.leadingText {text : String} (h : IsViable text) (length : Nat) :
    IsViable (leadingText text length) := by
  obtain ⟨more, version⟩ := h
  refine ⟨String.ofList (text.toList.drop length) ++ more, ?_⟩
  rwa [← String.append_assoc, leadingText_append_drop]

/-! ## The place where the scanner stops -/

/-- No text that goes on behind `front` with the character is a version, when the scanner fails on
all of them. -/
lemma not_isViable_of_fails {front : List Char} {c : Char}
    (fails : ∀ other : List Char, other.head? = some c →
      scanComponents (front ++ other) = .error other) :
    ¬ IsViable (String.ofList (front ++ [c])) := by
  rintro ⟨more, parts, wellFormed, spelled⟩
  have accepted : scanComponents (front ++ c :: more.toList) = .ok (parts, []) :=
    scanComponents_eq_ok_iff.2 ⟨rfl, wellFormed, by simp [spelled]⟩
  rw [fails (c :: more.toList) rfl] at accepted
  contradiction

/-- A text cut in two at the place where the scanner stops.  In front of the place stands a viable
text, and a character behind it refutes the text. -/
theorem scan_stops (text : String) :
    ∃ front rest, front ++ rest = text.toList ∧ (scan text).position = front.length ∧
      ((scan text).state = .mismatched ↔ rest ≠ []) ∧ IsViable (String.ofList front) ∧
      ∀ c ∈ rest.head?, ¬ IsViable (String.ofList (front ++ [c])) := by
  cases h : scanComponents text.toList with
  | ok found =>
      have version := scan_eq_matched_iff.1 (scan_eq_of_ok h)
      rw [scan_eq_of_ok h]
      refine ⟨text.toList, [], by simp, String.length_toList.symm, by simp, ?_, nofun⟩
      rw [String.ofList_toList]
      exact IsVersion.isViable ⟨found.1, version⟩
  | error rest =>
      obtain ⟨front, split, ⟨more, version⟩, fails⟩ := of_scanComponents_eq_error h
      have length : text.length = front.length + rest.length := by
        rw [← String.length_toList, ← split, List.length_append]
      rw [scan_eq_of_error h]
      refine ⟨front, rest, split, by simp [Scan.ofFailure, length], ?_, ⟨String.ofList more, ?_⟩,
        fun c ahead => not_isViable_of_fails fun other same => fails other (same.trans ahead.symm)⟩
      · cases rest <;> simp [Scan.ofFailure]
      · rwa [← String.ofList_append]

/-- What stands in front of the place where the scanner stops is viable. -/
theorem isViable_leadingText_position (text : String) :
    IsViable (leadingText text (scan text).position) := by
  obtain ⟨front, rest, split, position, -, viable, -⟩ := scan_stops text
  rwa [position, leadingText, ← split, List.take_left]

/-- A text that no character refutes is scanned to its end. -/
theorem position_eq_length {text : String} (h : (scan text).state ≠ .mismatched) :
    (scan text).position = text.length := by
  obtain ⟨front, rest, split, position, mismatched, -, -⟩ := scan_stops text
  have empty : rest = [] := by
    by_contra left
    exact h (mismatched.2 left)
  rw [position, ← String.length_toList, ← split, empty, List.append_nil]

/-- In a mismatched text the scanner stops in front of a character that refutes the text. -/
theorem not_isViable_leadingText_succ {text : String} (h : (scan text).state = .mismatched) :
    (scan text).position < text.length ∧
      ¬ IsViable (leadingText text ((scan text).position + 1)) := by
  obtain ⟨front, rest, split, position, mismatched, -, refuted⟩ := scan_stops text
  obtain ⟨c, rest, rfl⟩ := List.exists_cons_of_ne_nil (mismatched.1 h)
  constructor
  · rw [position, ← String.length_toList, ← split]
    simp
  · rw [position, leadingText, ← split, List.append_cons, List.take_left' (by simp)]
    exact refuted c rfl

/-! ## The states -/

theorem scan_state_eq_mismatched_iff {text : String} :
    (scan text).state = .mismatched ↔ ¬ IsViable text := by
  constructor
  · intro mismatched viable
    exact (not_isViable_leadingText_succ mismatched).2 (viable.leadingText _)
  · intro refuted
    by_contra other
    have whole := isViable_leadingText_position text
    rw [position_eq_length other, leadingText_length] at whole
    exact refuted whole

theorem scan_state_eq_unfinished_iff {text : String} :
    (scan text).state = .unfinished ↔ ¬ IsVersion text ∧ IsViable text := by
  have viable : IsViable text ↔ (scan text).state ≠ .mismatched := by
    rw [ne_eq, scan_state_eq_mismatched_iff, not_not]
  rw [← scan_state_eq_matched_iff, viable]
  cases (scan text).state <;> simp

theorem isViable_eq_true_iff {text : String} : isViable text = true ↔ IsViable text := by
  rw [isViable, bne_iff_ne, ne_eq, scan_state_eq_mismatched_iff, not_not]

/-- **What the three states mean.**  A text is unfinished when it is no version but some text behind
it makes it one, and mismatched when no text behind it does, the empty one included.  Only a
mismatched text is not scanned to its end: what stands in front of the offending character can be
continued to a version, and with this character it cannot.  So viability is inherited by prefixes. -/
theorem scan_state_iff_continuation (text : String) :
    ((scan text).state = .unfinished ↔
      isVersion text = false ∧ ∃ more, isVersion (text ++ more) = true) ∧
    ((scan text).state = .mismatched ↔ ∀ more, isVersion (text ++ more) = false) ∧
    ((scan text).state ≠ .mismatched → (scan text).position = text.length) ∧
    ((scan text).state = .mismatched →
      (scan text).position < text.length ∧
      (∃ more, isVersion (leadingText text (scan text).position ++ more) = true) ∧
      ∀ more, isVersion (leadingText text ((scan text).position + 1) ++ more) = false) ∧
    (isViable text = true → ∀ length, isViable (leadingText text length) = true) := by
  have viable : ∀ t, (∃ more, isVersion (t ++ more) = true) ↔ IsViable t := fun t =>
    exists_congr fun more => isVersion_eq_true_iff
  have refuted : ∀ t, (∀ more, isVersion (t ++ more) = false) ↔ ¬ IsViable t := fun t => by
    rw [← viable, not_exists]
    exact forall_congr' fun more => (Bool.not_eq_true _).symm.to_iff
  have version : isVersion text = false ↔ ¬ IsVersion text := by
    rw [← isVersion_eq_true_iff, Bool.not_eq_true]
  rw [viable, refuted, viable, refuted, version]
  refine ⟨scan_state_eq_unfinished_iff, scan_state_eq_mismatched_iff, position_eq_length,
    fun mismatched => ?_, fun h length => ?_⟩
  · obtain ⟨short, dead⟩ := not_isViable_leadingText_succ mismatched
    exact ⟨short, isViable_leadingText_position text, dead⟩
  · exact isViable_eq_true_iff.2 ((isViable_eq_true_iff.1 h).leadingText length)

/-- Behind a padded token of a pre-release a letter may still come, but nothing saves a padded
number. -/
theorem continuation_of_padded :
    ((scan "1.0.0-00").state = .unfinished ∧ (scan "1.0.0-00").position = 8) ∧
    (scan "1.01.0").state = .mismatched ∧ (∃ more, isVersion ("1.0" ++ more) = true) ∧
      ∀ more, isVersion ("1.01" ++ more) = false := by
  have token : (scan "1.0.0-00").state = .unfinished := by decide +kernel
  have number : (scan "1.01.0").state = .mismatched := by decide
  obtain ⟨-, -, position, -⟩ := scan_state_iff_continuation "1.0.0-00"
  obtain ⟨-, -, -, offending, -⟩ := scan_state_iff_continuation "1.01.0"
  obtain ⟨-, viable, dead⟩ := offending number
  exact ⟨⟨token, position (by simp [token])⟩, number, viable, dead⟩

end SemanticVersion
