import SemanticVersion.Proofs.Version.Assembly
import SemanticVersion.Proofs.Version.Rejection

/-!
# Where the text of an invalid version is refused

The text of a version can be made up whatever its components are.  When a component is invalid on its
own, the scanner stops within the piece of the text that belongs to the first such component, or right
behind it.

A negative number is refused at its sign, and there the scanner is followed step by step.  For the
optional parts it is enough to know which prefixes are viable: the mark of a part always is, and a
plus sign behind an invalid pre-release never is.

* `position_of_major`, `position_of_minor`, `position_of_patch` — a negative number is the first fault.
* `position_of_prerelease`, `position_of_metadata` — an optional part is.
-/

namespace SemanticVersion

/-! ## The place by viable prefixes -/

section Position

variable {text : String} {front rest : List Char}

lemma leadingText_front (split : front ++ rest = text.toList) :
    leadingText text front.length = String.ofList front := by
  rw [leadingText, ← split, List.take_left]

/-- The scanner comes to the end of a viable prefix. -/
lemma length_le_position (split : front ++ rest = text.toList)
    (viable : IsViable (String.ofList front)) : front.length ≤ (scan text).position := by
  refine (position_isGreatest text).2 ⟨?_, ?_⟩
  · rw [← String.length_toList, ← split, List.length_append]
    omega
  · rwa [leadingText_front split]

/-- The scanner does not come to the end of a prefix that is not viable. -/
lemma position_lt_length (split : front ++ rest = text.toList)
    (dead : ¬ IsViable (String.ofList front)) : (scan text).position < front.length := by
  by_contra reached
  have viable := isViable_leadingText_of_le (Nat.le_of_not_lt reached)
    (isViable_leadingText_position text)
  rw [leadingText_front split] at viable
  exact dead viable

/-- A failure of the steps in front of `rest` is a failure of the scanner there. -/
lemma position_of_readComponents (split : front ++ rest = text.toList)
    (failed : readComponents text.toList = .error rest) : (scan text).position = front.length := by
  have error : scanComponents text.toList = .error rest := by
    rw [scanComponents_eq, failed]
  have length : text.length = front.length + rest.length := by
    rw [← String.length_toList, ← split, List.length_append]
  rw [scan_eq_of_error error]
  simp [Scan.ofFailure, length]

/-- What stands in front of a cut through a version text is viable. -/
lemma isViable_of_wellFormed {version : Version} (h : version.WellFormed)
    (split : front ++ rest = version.toComponents.text.toList) :
    IsViable (String.ofList front) := by
  refine ⟨String.ofList rest, version.toComponents,
    Version.toComponents_wellFormed_iff.2 h, ?_⟩
  rw [← String.ofList_append, split, String.ofList_toList]

end Position

/-! ## Negative numbers -/

/-- After a number and a dot the scanner goes on with what follows. -/
lemma scanNumber_integerDigits {n : Int} (nonneg : 0 ≤ n) (rest : List Char) :
    scanNumber (integerDigits n ++ '.' :: rest) = .ok (integerDigits n, '.' :: rest) := by
  exact scanNumber_append (isNumber_integerDigits_iff.2 nonneg) (head_cons_outside (by decide) rest)

/-- A negative integer is refused at its sign. -/
lemma scanNumber_of_neg {n : Int} (negative : ¬ 0 ≤ n) (rest : List Char) :
    scanNumber (integerDigits n ++ rest) = .error (integerDigits n ++ rest) := by
  refine scanNumber_of_no_digit ?_
  rw [integerDigits_of_neg negative]
  exact head_cons_outside (by decide) _

section Assembled

variable {version : Version}

theorem position_of_major (negative : ¬ 0 ≤ version.major) :
    (scan version.toComponents.text).position = 0 := by
  refine position_of_readComponents (List.nil_append _) ?_
  rw [toList_text_toComponents, readComponents]
  exact followedBy_error (scanNumber_of_neg negative _)

theorem position_of_minor (major : 0 ≤ version.major) (negative : ¬ 0 ≤ version.minor) :
    (scan version.toComponents.text).position = (integerDigits version.major).length + 1 := by
  have split := toList_text_toComponents version
  rw [List.append_cons] at split
  rw [position_of_readComponents split.symm, List.length_append, List.length_singleton]
  rw [toList_text_toComponents, readComponents,
    followedBy_ok (scanNumber_integerDigits major _), followedBy_ok (scanChar_cons _ _)]
  exact followedBy_error (scanNumber_of_neg negative _)

theorem position_of_patch (major : 0 ≤ version.major) (minor : 0 ≤ version.minor)
    (negative : ¬ 0 ≤ version.patch) :
    (scan version.toComponents.text).position =
      (integerDigits version.major).length + 1 + ((integerDigits version.minor).length + 1) := by
  have split := toList_text_toComponents version
  rw [List.append_cons, List.append_cons (integerDigits version.minor), ← List.append_assoc] at split
  rw [position_of_readComponents split.symm]
  · simp only [List.length_append, List.length_singleton]
  rw [toList_text_toComponents, readComponents,
    followedBy_ok (scanNumber_integerDigits major _), followedBy_ok (scanChar_cons _ _),
    followedBy_ok (scanNumber_integerDigits minor _), followedBy_ok (scanChar_cons _ _)]
  exact followedBy_error (scanNumber_of_neg negative _)

end Assembled

/-! ## Optional parts -/

/-- The numbers of a version with their dots. -/
def Version.numbers (version : Version) : List Char :=
  integerDigits version.major ++ '.' :: (integerDigits version.minor ++ '.' ::
    integerDigits version.patch)

section Optional

variable {version : Version}

lemma toList_text_eq_numbers_append (version : Version) :
    version.toComponents.text.toList =
      version.numbers ++ ((marked "-" version.prerelease).toList ++
        (marked "+" version.metadata).toList) := by
  rw [toList_text_toComponents, Version.numbers]
  simp

lemma position_le_length (version : Version) :
    (scan version.toComponents.text).position ≤ version.numbers.length +
      (marked "-" version.prerelease).length + (marked "+" version.metadata).length := by
  have within := (position_isGreatest version.toComponents.text).1.1
  rw [← String.length_toList, toList_text_eq_numbers_append, List.length_append,
    List.length_append, String.length_toList, String.length_toList] at within
  omega

/-- A plus sign ends the pre-release for good, so nothing saves an invalid one in front of it. -/
lemma not_isViable_plus (invalid : ¬ IsPrerelease version.prerelease.toList) :
    ¬ IsViable (String.ofList (version.numbers ++ '-' :: (version.prerelease.toList ++ ['+']))) := by
  rintro ⟨more, parts, wellFormed, spelled⟩
  have read := Components.spelledBy_iff.2 ⟨wellFormed, congrArg String.toList spelled⟩
  have split : (String.ofList (version.numbers ++ '-' :: (version.prerelease.toList ++ ['+'])) ++
      more).toList = integerDigits version.major ++ '.' :: (integerDigits version.minor ++ '.' ::
        (integerDigits version.patch ++ '-' :: (version.prerelease.toList ++ '+' :: more.toList))) := by
    simp [Version.numbers]
  rw [split] at read
  obtain ⟨-, dashed, plussed, hyphen, plus, same⟩ :=
    read.numbers (head_cons_outside (by decide) _)
  exact invalid (of_marked_eq_plus hyphen plus same).1

section Numbers

variable (major : 0 ≤ version.major) (minor : 0 ≤ version.minor) (patch : 0 ≤ version.patch)

include major minor patch

/-- A letter behind the hyphen makes a version text. -/
lemma isViable_hyphen : IsViable (String.ofList (version.numbers ++ ['-'])) := by
  have letter : IsPrerelease "a".toList := by decide
  have wellFormed : Version.WellFormed { version with prerelease := "a", metadata := "" } :=
    ⟨major, minor, patch, .inr letter, .inl rfl⟩
  have spelled : version.numbers ++ ['-'] ++ ['a'] =
      (Version.toComponents { version with prerelease := "a", metadata := "" }).text.toList := by
    rw [toList_text_eq_numbers_append]
    simp [Version.numbers, marked]
  exact isViable_of_wellFormed wellFormed spelled

/-- A letter behind the plus sign makes a version text, when the pre-release is valid. -/
lemma isViable_plus
    (prerelease : version.prerelease = "" ∨ IsPrerelease version.prerelease.toList) :
    IsViable (String.ofList (version.numbers ++ (marked "-" version.prerelease).toList ++ ['+'])) := by
  have letter : IsMetadata "a".toList := by decide
  have wellFormed : Version.WellFormed { version with metadata := "a" } :=
    ⟨major, minor, patch, prerelease, .inr letter⟩
  have spelled : version.numbers ++ (marked "-" version.prerelease).toList ++ ['+'] ++ ['a'] =
      (Version.toComponents { version with metadata := "a" }).text.toList := by
    rw [toList_text_eq_numbers_append]
    simp [Version.numbers, marked]
  exact isViable_of_wellFormed wellFormed spelled

/-- A pre-release that is not valid on its own is refused within its piece or right behind it. -/
theorem position_of_prerelease
    (invalid : ¬ (version.prerelease = "" ∨ IsPrerelease version.prerelease.toList)) :
    version.numbers.length < (scan version.toComponents.text).position ∧
      (scan version.toComponents.text).position ≤
        version.numbers.length + (marked "-" version.prerelease).length := by
  obtain ⟨present, invalid⟩ := not_or.1 invalid
  have text := toList_text_eq_numbers_append version
  rw [toList_marked present] at text
  constructor
  · have front : (version.numbers ++ ['-']) ++ (version.prerelease.toList ++
        (marked "+" version.metadata).toList) = version.toComponents.text.toList := by
      rw [text]
      simp
    have reached := length_le_position front (isViable_hyphen major minor patch)
    rw [List.length_append, List.length_singleton] at reached
    omega
  · by_cases absent : version.metadata = ""
    · have within := position_le_length version
      have nothing : (marked "+" "").length = 0 := congrArg List.length (toList_marked_empty "+")
      rw [absent, nothing] at within
      exact within
    · rw [toList_marked absent] at text
      have front : (version.numbers ++ '-' :: (version.prerelease.toList ++ ['+'])) ++
          version.metadata.toList = version.toComponents.text.toList := by
        rw [text]
        simp
      have stopped := position_lt_length front (not_isViable_plus invalid)
      have length := congrArg List.length (@toList_marked "-" _ present)
      simp only [List.length_append, List.length_cons, List.length_nil, String.length_toList]
        at stopped length
      have mark : "-".length = 1 := rfl
      omega

/-- Metadata that is not valid on its own is refused within its piece or right behind it. -/
theorem position_of_metadata
    (prerelease : version.prerelease = "" ∨ IsPrerelease version.prerelease.toList)
    (invalid : ¬ (version.metadata = "" ∨ IsMetadata version.metadata.toList)) :
    version.numbers.length + (marked "-" version.prerelease).length <
        (scan version.toComponents.text).position ∧
      (scan version.toComponents.text).position ≤ version.numbers.length +
        (marked "-" version.prerelease).length + (marked "+" version.metadata).length := by
  obtain ⟨present, -⟩ := not_or.1 invalid
  refine ⟨?_, position_le_length version⟩
  have front : (version.numbers ++ (marked "-" version.prerelease).toList ++ ['+']) ++
      version.metadata.toList = version.toComponents.text.toList := by
    rw [toList_text_eq_numbers_append, toList_marked present]
    simp
  have reached := length_le_position front (isViable_plus major minor patch prerelease)
  simp only [List.length_append, List.length_singleton, String.length_toList] at reached
  omega

end Numbers

end Optional

end SemanticVersion
