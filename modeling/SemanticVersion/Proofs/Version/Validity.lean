import SemanticVersion.Proofs.Version.Rejection
import SemanticVersion.Proofs.Version.RoundTrip

/-!
# Validity, reading and checking

Three operations decide what a version text is.  Validity is decided by the grammar alone, while reading
and checking also convert the three numbers.  So they agree on every text whose numbers keep to the digit
limit, and **a valid text with a longer number is neither read nor reported as malformed**: it fails
with the conversion.  Numbers in the pre-release make no difference, since they are not converted.

* `isVersion_iff_exists_components` — a text is valid when the scanner gives its parts.
* `Components.oversized?` — the first number over the limit, if there is one.
* `parse_eq_digitLimit_iff` — when a conversion fails.
* `validity_outcomes` — the three things that can happen to a text.
* `validity_of_4301_digits` — the third one does happen.
-/

namespace SemanticVersion

/-- A text is valid when the scanner gives its parts. -/
lemma isVersion_iff_exists_components {text : String} :
    isVersion text = true ↔ ∃ parts, (scan text).components = some parts := by
  simp only [isVersion_eq_true_iff, IsVersion, scan_components_eq_some_iff]

/-- Only valid texts are read. -/
lemma isVersion_of_parse {text : String} {version : Version}
    (read : Version.parse text = .ok version) : isVersion text = true := by
  obtain ⟨parts, scanned, -⟩ := parse_eq_ok_iff_ofComponents.1 read
  exact isVersion_iff_exists_components.2 ⟨parts, scanned⟩

/-! ## Numbers over the limit -/

/-- How many digits the first number has that is over the limit. -/
def Components.oversized? (parts : Components) : Option Nat :=
  [parts.major.length, parts.minor.length, parts.patch.length].find? fun digits =>
    decide (digitLimit < digits)

/-- The first number over the limit is reported, with the number of its digits. -/
theorem ofComponents_eq_error_iff {parts : Components} {limit : DigitLimit} :
    Version.ofComponents parts = .error limit ↔
      ∃ digits, parts.oversized? = some digits ∧ limit = .reading digits := by
  have refused (part : String) (long : digitLimit < part.length) :
      readNatural part.toList = .error (.reading part.length) := by
    rw [readNatural_eq_error_iff, String.length_toList]
    exact ⟨long, rfl⟩
  have read (part : String) (short : ¬ digitLimit < part.length) :
      ∃ n, readNatural part.toList = .ok n := by
    rw [exists_readNatural_eq_ok_iff, String.length_toList]
    exact Nat.not_lt.1 short
  rw [Version.ofComponents, Components.oversized?]
  by_cases major : digitLimit < parts.major.length
  · simp [refused _ major, major, bind, Except.bind, eq_comm]
  · obtain ⟨_, read_major⟩ := read _ major
    rw [read_major, ok_bind, List.find?_cons_of_neg (by simpa using major)]
    by_cases minor : digitLimit < parts.minor.length
    · simp [refused _ minor, minor, bind, Except.bind, eq_comm]
    · obtain ⟨_, read_minor⟩ := read _ minor
      rw [read_minor, ok_bind, List.find?_cons_of_neg (by simpa using minor)]
      by_cases patch : digitLimit < parts.patch.length
      · simp [refused _ patch, patch, bind, Except.bind, eq_comm]
      · obtain ⟨_, read_patch⟩ := read _ patch
        rw [read_patch, ok_bind, List.find?_cons_of_neg (by simpa using patch)]
        simp [pure, Except.pure]

/-- A conversion fails in a version text with a number over the limit, and only there. -/
theorem parse_eq_digitLimit_iff {text : String} {limit : DigitLimit} :
    Version.parse text = .error (.digitLimit limit) ↔ ∃ parts digits,
      (scan text).components = some parts ∧ parts.oversized? = some digits ∧
        limit = .reading digits := by
  rw [Version.parse]
  cases (scan text).components with
  | none => simp
  | some parts =>
      have lifted : (liftM (Version.ofComponents parts) : Except Error Version) =
          .error (.digitLimit limit) ↔ Version.ofComponents parts = .error limit := by
        cases Version.ofComponents parts <;> simp
      simp [lifted, ofComponents_eq_error_iff]

/-! ## What happens to a text -/

/-- A text is checked by reading it. -/
lemma check_text (text : String) :
    (Value.text text).check = (Version.parse text).map fun _ => Value.text text := by
  have read : (Value.text text).parse = Version.parse text := rfl
  rw [Value.check, read]
  cases Version.parse text <;> rfl

/-- **A text is valid and read, or neither, unless a number is over the limit.**  Exactly one of three
things happens to a text.  Either it is valid with numbers within the limit, it is read, and checking
gives it back.  Or it is not valid, and reading and checking report it as malformed.  Or it is valid
with a number over the limit, and reading and checking both fail with the conversion of the first such
number. -/
theorem validity_outcomes (text : String) :
    (isVersion text = true ∧
      (∃ parts : Components, (scan text).components = some parts ∧ parts.Readable) ∧
      (∃ version, Version.parse text = .ok version) ∧
      (Value.text text).check = .ok (.text text)) ∨
    (isVersion text = false ∧
      ∃ report, Version.parse text = .error (.malformed report) ∧
        (Value.text text).check = .error (.malformed report)) ∨
    (isVersion text = true ∧
      ∃ parts digits, (scan text).components = some parts ∧ parts.oversized? = some digits ∧
        Version.parse text = .error (.digitLimit (.reading digits)) ∧
        (Value.text text).check = .error (.digitLimit (.reading digits))) := by
  rw [check_text]
  by_cases valid : isVersion text = true
  · obtain ⟨parts, scanned⟩ := isVersion_iff_exists_components.1 valid
    cases read : Version.ofComponents parts with
    | ok version =>
        have readable := Version.exists_ofComponents_eq_ok_iff.1 ⟨version, read⟩
        have parsed := parse_eq_ok_iff_ofComponents.2 ⟨parts, scanned, read⟩
        exact .inl ⟨valid, ⟨parts, scanned, readable⟩, ⟨version, parsed⟩, by rw [parsed]; rfl⟩
    | error limit =>
        obtain ⟨digits, oversized, rfl⟩ := ofComponents_eq_error_iff.1 read
        have refused := parse_eq_digitLimit_iff.2 ⟨parts, digits, scanned, oversized, rfl⟩
        exact .inr (.inr ⟨valid, parts, digits, scanned, oversized, refused, by rw [refused]; rfl⟩)
  · have rejected : (scan text).state ≠ .matched := by
      simpa [isVersion] using valid
    have malformed := parse_eq_unexpected rejected
    exact .inr (.inl ⟨by simpa using valid, _, malformed, by rw [malformed]; rfl⟩)

/-! ## A valid text that is not read -/

/-- The parts of a version whose first number is a run of ones. -/
def onesParts (digits : Nat) : Components where
  major := String.ofList (List.replicate digits '1')
  minor := "0"
  patch := "0"
  prerelease := ""
  metadata := ""

/-- A run of ones is a number, whatever its length. -/
lemma onesParts_wellFormed {digits : Nat} (nonempty : digits ≠ 0) :
    (onesParts digits).WellFormed where
  major := by
    obtain ⟨n, rfl⟩ := Nat.exists_eq_succ_of_ne_zero nonempty
    rw [onesParts, String.toList_ofList, List.replicate_succ, isNumber_iff]
    refine .inr ⟨'1', _, rfl, rfl, by decide, fun c mem => ?_⟩
    rw [List.eq_of_mem_replicate mem]
    rfl
  minor := by simpa [onesParts] using isNumber_zero
  patch := by simpa [onesParts] using isNumber_zero
  prerelease := .inl rfl
  metadata := .inl rfl

lemma onesParts_oversized {digits : Nat} (long : digitLimit < digits) :
    (onesParts digits).oversized? = some digits := by
  simp [onesParts, Components.oversized?, long]

/-- The text with a number of 4301 digits is valid, but reading and checking it fail, and not because it
is malformed.  So validity does not decide what happens to a text. -/
theorem validity_of_4301_digits :
    isVersion (onesParts 4301).text = true ∧
    Version.parse (onesParts 4301).text = .error (.digitLimit (.reading 4301)) ∧
    (Value.text (onesParts 4301).text).check = .error (.digitLimit (.reading 4301)) ∧
    ¬ ∀ text : String,
      (isVersion text = true ∧ (∃ version, Version.parse text = .ok version) ∧
        (Value.text text).check = .ok (.text text)) ∨
      (isVersion text = false ∧ (∃ report, Version.parse text = .error (.malformed report)) ∧
        ∃ report, (Value.text text).check = .error (.malformed report)) := by
  have scanned : (scan (onesParts 4301).text).components = some (onesParts 4301) :=
    scan_components_eq_some_iff.2 ⟨onesParts_wellFormed (by decide), rfl⟩
  have oversized : (onesParts 4301).oversized? = some 4301 := onesParts_oversized (by decide)
  have parsed := parse_eq_digitLimit_iff.2 ⟨onesParts 4301, 4301, scanned, oversized, rfl⟩
  have checked : (Value.text (onesParts 4301).text).check =
      .error (.digitLimit (.reading 4301)) := by
    rw [check_text, parsed]
    rfl
  refine ⟨isVersion_iff_exists_components.2 ⟨_, scanned⟩, parsed, checked, fun agree => ?_⟩
  rcases agree (onesParts 4301).text with ⟨-, ⟨version, ok⟩, -⟩ | ⟨-, ⟨report, malformed⟩, -⟩
  · exact nomatch parsed.symm.trans ok
  · exact nomatch parsed.symm.trans malformed

end SemanticVersion
