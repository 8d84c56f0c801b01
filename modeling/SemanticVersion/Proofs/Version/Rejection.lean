import SemanticVersion.Proofs.Divergence.Boundary
import SemanticVersion.Proofs.Grammar.Viability
import SemanticVersion.Version.Parse

/-!
# The report about a rejected text

A rejected text is reported with an offset, and the offset is searched for by scanning prefixes of
the text again.  The scanner itself has stopped somewhere, too.  This file shows that the two places
are the same: viability is inherited by prefixes, so there is one boundary only, and the search and
the scanner both stop at it.

* `position_isGreatest`, `divergence_found_eq_position` — the scanner stops behind the longest viable
  prefix, and so does the search.
* `blaming` — the wording of a report, with what it blames left open.
* `parse_rejection` — the whole report about a text that is no version.
-/

namespace SemanticVersion

/-! ## One boundary -/

lemma leadingText_leadingText (text : String) {m n : Nat} (h : m ≤ n) :
    leadingText (leadingText text n) m = leadingText text m := by
  rw [leadingText, toList_leadingText, List.take_take, Nat.min_eq_left h, leadingText]

/-- Viability is inherited by shorter prefixes of the same text. -/
lemma isViable_leadingText_of_le {text : String} {m n : Nat} (h : m ≤ n)
    (viable : IsViable (leadingText text n)) : IsViable (leadingText text m) := by
  rw [← leadingText_leadingText text h]
  exact viable.leadingText m

/-- The scanner stops behind the longest viable prefix. -/
theorem position_isGreatest (text : String) :
    IsGreatest {n | n ≤ text.length ∧ IsViable (leadingText text n)} (scan text).position := by
  by_cases mismatched : (scan text).state = .mismatched
  · obtain ⟨short, refuted⟩ := not_isViable_leadingText_succ mismatched
    refine ⟨⟨short.le, isViable_leadingText_position text⟩, fun n ⟨_, viable⟩ => ?_⟩
    by_contra beyond
    exact refuted (isViable_leadingText_of_le (by omega) viable)
  · have whole := position_eq_length mismatched
    exact ⟨⟨whole.le, isViable_leadingText_position text⟩, fun n ⟨within, _⟩ => whole ▸ within⟩

/-- The search over the prefixes of a text stops where the scanner stops. -/
theorem divergence_found_eq_position (text : String) :
    (divergence text isViable).found = (scan text).position := by
  have zero : IsViable (leadingText text 0) :=
    isViable_leadingText_of_le (Nat.zero_le _) (isViable_leadingText_position text)
  have greatest := (divergence_isBoundary text isViable).isGreatest (isViable_eq_true_iff.2 zero)
    fun m n le viable =>
      isViable_eq_true_iff.2 (isViable_leadingText_of_le le (isViable_eq_true_iff.1 viable))
  simp only [isViable_eq_true_iff, Nat.lt_succ_iff] at greatest
  exact greatest.unique (position_isGreatest text)

/-! ## The wording -/

/-- The wording of a report that blames something at an offset. -/
def blaming (version blamed : String) (offset : Int) : String :=
  "Invalid semantic version " ++ quote version ++ ": unexpected " ++ blamed ++ " at index " ++
    toString offset

lemma unexpected_message (version : String) (offset : Int) :
    (Malformed.unexpected version offset).message
      = blaming version (if (version.length : Int) ≤ offset then "end of input" else "character")
          offset := by
  unfold Malformed.unexpected blaming
  rfl

/-- Two wordings about the same place are the same only if they blame the same. -/
lemma blaming_inj {version blamed blamed' : String} {offset : Int} :
    blaming version blamed offset = blaming version blamed' offset ↔ blamed = blamed' := by
  unfold blaming
  rw [String.append_left_inj, String.append_left_inj, String.append_right_inj]

/-! ## The report -/

lemma components_eq_none {text : String} (rejected : (scan text).state ≠ .matched) :
    (scan text).components = none := by
  cases h : scanComponents text.toList with
  | ok found =>
      rw [scan_eq_of_ok h] at rejected
      contradiction
  | error rest =>
      rw [scan_eq_of_error h]
      rfl

/-- A rejected text is reported with the offset at which the scanner stopped. -/
theorem parse_eq_unexpected {text : String} (rejected : (scan text).state ≠ .matched) :
    Version.parse text = .error (.malformed (.unexpected text (scan text).position)) := by
  rw [Version.parse, components_eq_none rejected, Malformed.ofText, divergence_found_eq_position]

/-- A rejected text is unfinished exactly when the scanner has come to its end. -/
lemma position_eq_length_iff {text : String} (rejected : (scan text).state ≠ .matched) :
    (scan text).position = text.length ↔ (scan text).state = .unfinished := by
  cases state : (scan text).state with
  | matched => contradiction
  | unfinished =>
      have whole : (scan text).position = text.length := position_eq_length (by simp [state])
      simp [whole]
  | mismatched =>
      have short := (not_isViable_leadingText_succ state).1
      simp [short.ne]

/-- **The report about a rejected text.**  A text that is no version is rejected with a report that
holds the text and the offset that the search finds.  The offset is the position of the scanner and
the length of the longest prefix that can be continued to a version.  The report blames the end of
the input for an unfinished text, which is when the offset is the length of the text, and a
character for a mismatched one. -/
theorem parse_rejection (text : String) (rejected : (scan text).state ≠ .matched) :
    ∃ report : Malformed, Version.parse text = .error (.malformed report) ∧
      report.version = text ∧
      report.offset = (divergence text isViable).found ∧
      (divergence text isViable).found = (scan text).position ∧
      IsGreatest
        {n | n ≤ text.length ∧ ∃ more, isVersion (leadingText text n ++ more) = true}
        (scan text).position ∧
      (report.message = blaming text "end of input" (scan text).position ↔
        (scan text).state = .unfinished) ∧
      (report.offset = text.length ↔ (scan text).state = .unfinished) ∧
      (report.message = blaming text "character" (scan text).position ↔
        (scan text).state = .mismatched) := by
  have position := position_isGreatest text
  have at_end := position_eq_length_iff rejected
  have message : (Malformed.unexpected text (scan text).position).message
      = blaming text
          (if (scan text).state = .unfinished then "end of input" else "character")
          (scan text).position := by
    have reached : (text.length : Int) ≤ (scan text).position ↔ (scan text).state = .unfinished := by
      rw [← at_end, Int.ofNat_le, position.1.1.ge_iff_eq]
    rw [unexpected_message]
    simp only [reached]
  refine ⟨_, parse_eq_unexpected rejected, rfl, ?_, divergence_found_eq_position text, ?_, ?_, ?_, ?_⟩
  · rw [divergence_found_eq_position]
    rfl
  · simp only [isVersion_eq_true_iff]
    exact position
  · rw [message, blaming_inj]
    split <;> simp_all
  · rw [← at_end]
    exact Int.ofNat_inj
  · rw [message, blaming_inj]
    cases state : (scan text).state <;> simp_all

/-- The number `01` is refused at its second digit. -/
theorem parse_rejection_of_padded : (scan "1.01.0").state ≠ .matched ∧
    ∃ report : Malformed, Version.parse "1.01.0" = .error (.malformed report) ∧
      report.version = "1.01.0" ∧ report.offset = 3 ∧
      report.message = blaming "1.01.0" "character" 3 := by
  have rejected : (scan "1.01.0").state ≠ .matched := by decide
  obtain ⟨report, error, version, offset, found, -, -, -, message⟩ :=
    parse_rejection "1.01.0" rejected
  refine ⟨rejected, report, error, version, ?_, message.2 (by decide)⟩
  rw [offset, found]
  decide

end SemanticVersion
