import SemanticVersion.Proofs.Decimal.Numeral
import SemanticVersion.Proofs.Grammar.Acceptance
import SemanticVersion.Proofs.Grammar.Tokens
import SemanticVersion.Proofs.Outcome
import SemanticVersion.Version.Parse

/-!
# Reading and printing versions

A version text is decomposed into parts in exactly one way, and a number has exactly one numeral.  So
reading a text and printing a version undo each other, as long as the numbers keep to the digit limit.

Between a version and its text stand the parts of the text.  Each of the two steps is an equivalence
of its own, and `parse_eq_ok_iff` is what comes out when they are put together: **what is read from a
text is the well-formed version that is printed as this text**.

* `Version.Writable`, `Components.Readable` — the versions and the parts that keep to the limit.
* `Version.toComponents` — the parts that a version is printed with, with `text_eq_ok_iff` and
  `ofComponents_eq_ok_iff`.
* `parse_eq_ok_iff` — reading in terms of printing.
* `parse_text_inverse` — both directions of the round trip, and what follows from them.
-/

namespace SemanticVersion

/-! ## Within the limit -/

/-- The versions whose numbers keep to the digit limit. -/
structure Version.Writable (version : Version) : Prop where
  major : IsWritable version.major
  minor : IsWritable version.minor
  patch : IsWritable version.patch

/-- The parts whose numbers keep to the digit limit. -/
structure Components.Readable (parts : Components) : Prop where
  major : parts.major.length ≤ digitLimit
  minor : parts.minor.length ≤ digitLimit
  patch : parts.patch.length ≤ digitLimit

/-- Versions with small numbers are within the limit. -/
lemma Version.writable_of_lt_ten {version : Version} (major : version.major.natAbs < 10)
    (minor : version.minor.natAbs < 10) (patch : version.patch.natAbs < 10) : version.Writable :=
  ⟨isWritable_of_lt_ten major, isWritable_of_lt_ten minor, isWritable_of_lt_ten patch⟩

/-! ## From versions to parts -/

/-- The parts that a version is printed with, where no limit is kept. -/
def Version.toComponents (version : Version) : Components where
  major := String.ofList (integerDigits version.major)
  minor := String.ofList (integerDigits version.minor)
  patch := String.ofList (integerDigits version.patch)
  prerelease := version.prerelease
  metadata := version.metadata

namespace Version

/-- Well-formed versions are printed with well-formed parts, and only they are. -/
theorem toComponents_wellFormed_iff {version : Version} :
    version.toComponents.WellFormed ↔ version.WellFormed := by
  have number : ∀ n : Int, IsNumber (String.ofList (integerDigits n)).toList ↔ 0 ≤ n := fun n => by
    rw [String.toList_ofList, isNumber_integerDigits_iff]
  constructor
  · rintro ⟨major, minor, patch, prerelease, metadata⟩
    exact ⟨(number _).1 major, (number _).1 minor, (number _).1 patch, prerelease, metadata⟩
  · rintro ⟨major, minor, patch, prerelease, metadata⟩
    exact ⟨(number _).2 major, (number _).2 minor, (number _).2 patch, prerelease, metadata⟩

/-- The text of a version is made up of its parts.  It is there within the digit limit. -/
theorem text_eq_ok_iff {version : Version} {text : String} :
    version.text = .ok text ↔ version.Writable ∧ version.toComponents.text = text := by
  constructor
  · intro printed
    obtain ⟨core, numbers, printed⟩ := bind_eq_ok_iff.1 printed
    obtain ⟨major, hM, numbers⟩ := bind_eq_ok_iff.1 numbers
    obtain ⟨minor, hm, numbers⟩ := bind_eq_ok_iff.1 numbers
    obtain ⟨patch, hp, numbers⟩ := bind_eq_ok_iff.1 numbers
    obtain ⟨major_writable, rfl⟩ := writeInteger_eq_ok_iff.1 hM
    obtain ⟨minor_writable, rfl⟩ := writeInteger_eq_ok_iff.1 hm
    obtain ⟨patch_writable, rfl⟩ := writeInteger_eq_ok_iff.1 hp
    obtain rfl := Except.ok.inj numbers
    exact ⟨⟨major_writable, minor_writable, patch_writable⟩, Except.ok.inj printed⟩
  · rintro ⟨writable, rfl⟩
    rw [Version.text, core, writeInteger_eq_ok_iff.2 ⟨writable.major, rfl⟩,
      writeInteger_eq_ok_iff.2 ⟨writable.minor, rfl⟩, writeInteger_eq_ok_iff.2 ⟨writable.patch, rfl⟩]
    rfl

/-! ## From parts to versions -/

/-- What is read from well-formed parts is the version that is printed with them. -/
theorem ofComponents_eq_ok_iff {parts : Components} (h : parts.WellFormed) {version : Version} :
    ofComponents parts = .ok version ↔ version.Writable ∧ version.toComponents = parts := by
  constructor
  · intro read
    obtain ⟨major, hM, read⟩ := bind_eq_ok_iff.1 read
    obtain ⟨minor, hm, read⟩ := bind_eq_ok_iff.1 read
    obtain ⟨patch, hp, read⟩ := bind_eq_ok_iff.1 read
    obtain ⟨major_writable, major_digits⟩ := (readNatural_eq_ok_iff h.major).1 hM
    obtain ⟨minor_writable, minor_digits⟩ := (readNatural_eq_ok_iff h.minor).1 hm
    obtain ⟨patch_writable, patch_digits⟩ := (readNatural_eq_ok_iff h.patch).1 hp
    obtain rfl := Except.ok.inj read
    refine ⟨⟨major_writable, minor_writable, patch_writable⟩, ?_⟩
    simp [toComponents, major_digits, minor_digits, patch_digits]
  · rintro ⟨writable, rfl⟩
    obtain ⟨major, minor, patch, prerelease, metadata⟩ := version
    have nonneg := toComponents_wellFormed_iff.1 h
    -- well-formed versions hold natural numbers
    obtain ⟨major, rfl⟩ := Int.eq_ofNat_of_zero_le nonneg.major
    obtain ⟨minor, rfl⟩ := Int.eq_ofNat_of_zero_le nonneg.minor
    obtain ⟨patch, rfl⟩ := Int.eq_ofNat_of_zero_le nonneg.patch
    rw [ofComponents, (readNatural_eq_ok_iff h.major).2 ⟨writable.major, by simp [toComponents]⟩,
      (readNatural_eq_ok_iff h.minor).2 ⟨writable.minor, by simp [toComponents]⟩,
      (readNatural_eq_ok_iff h.patch).2 ⟨writable.patch, by simp [toComponents]⟩]
    rfl

/-- Parts within the limit are read, and no others. -/
theorem exists_ofComponents_eq_ok_iff {parts : Components} :
    (∃ version, ofComponents parts = .ok version) ↔ parts.Readable := by
  have number : ∀ part : String,
      (∃ n, readNatural part.toList = .ok n) ↔ part.length ≤ digitLimit := fun part => by
    rw [exists_readNatural_eq_ok_iff, String.length_toList]
  constructor
  · rintro ⟨version, read⟩
    obtain ⟨major, hM, read⟩ := bind_eq_ok_iff.1 read
    obtain ⟨minor, hm, read⟩ := bind_eq_ok_iff.1 read
    obtain ⟨patch, hp, read⟩ := bind_eq_ok_iff.1 read
    exact ⟨(number _).1 ⟨major, hM⟩, (number _).1 ⟨minor, hm⟩, (number _).1 ⟨patch, hp⟩⟩
  · rintro ⟨major, minor, patch⟩
    obtain ⟨major, hM⟩ := (number _).2 major
    obtain ⟨minor, hm⟩ := (number _).2 minor
    obtain ⟨patch, hp⟩ := (number _).2 patch
    rw [ofComponents, hM, hm, hp]
    exact ⟨_, rfl⟩

end Version

/-! ## Reading in terms of printing -/

/-- The parts that the scanner gives are well-formed and make up the text. -/
lemma scan_components_eq_some_iff {text : String} {parts : Components} :
    (scan text).components = some parts ↔ parts.WellFormed ∧ parts.text = text := by
  rw [← scan_eq_matched_iff]
  cases h : scanComponents text.toList with
  | error rest =>
      rw [scan_eq_of_error h]
      simp [Scan.ofFailure]
  | ok found =>
      rw [scan_eq_of_ok h]
      simp

lemma parse_eq_ok_iff_ofComponents {text : String} {version : Version} :
    Version.parse text = .ok version ↔
      ∃ parts : Components, (scan text).components = some parts ∧
        Version.ofComponents parts = .ok version := by
  rw [Version.parse]
  cases (scan text).components with
  | none => simp
  | some parts => simp [liftM_eq_ok_iff]

/-- **Reading in terms of printing.**  What is read from a text is the well-formed version that is
printed as this text. -/
theorem parse_eq_ok_iff {text : String} {version : Version} :
    Version.parse text = .ok version ↔ version.WellFormed ∧ version.text = .ok text := by
  rw [parse_eq_ok_iff_ofComponents, Version.text_eq_ok_iff]
  constructor
  · rintro ⟨parts, scanned, read⟩
    obtain ⟨wellFormed, spelled⟩ := scan_components_eq_some_iff.1 scanned
    obtain ⟨writable, rfl⟩ := (Version.ofComponents_eq_ok_iff wellFormed).1 read
    exact ⟨Version.toComponents_wellFormed_iff.1 wellFormed, writable, spelled⟩
  · rintro ⟨wellFormed, writable, spelled⟩
    have parts := Version.toComponents_wellFormed_iff.2 wellFormed
    exact ⟨_, scan_components_eq_some_iff.2 ⟨parts, spelled⟩,
      (Version.ofComponents_eq_ok_iff parts).2 ⟨writable, rfl⟩⟩

/-- A well-formed version within the limit has a text, and is read from it. -/
lemma Version.WellFormed.exists_text {version : Version} (h : version.WellFormed)
    (writable : version.Writable) :
    ∃ text, version.text = .ok text ∧ Version.parse text = .ok version :=
  have printed := Version.text_eq_ok_iff.2 ⟨writable, rfl⟩
  ⟨_, printed, parse_eq_ok_iff.2 ⟨h, printed⟩⟩

/-- A text is read exactly when it is decomposed into parts within the limit. -/
lemma exists_parse_eq_ok_iff {text : String} :
    (∃ version, Version.parse text = .ok version) ↔
      ∃ parts : Components, (scan text).components = some parts ∧ parts.Readable := by
  simp only [parse_eq_ok_iff_ofComponents, ← Version.exists_ofComponents_eq_ok_iff]
  grind

/-- **Reading and printing undo each other.**  A version text whose numbers have no more digits than
the limit allows is read, and what is read is printed as this text.  A well-formed version whose
numbers are below the limit is printed, and it is read from its text.  So different versions of this
kind have different texts, and the texts that are read are exactly the texts of these versions. -/
theorem parse_text_inverse :
    (∀ (text : String) (parts : Components), scan text = ⟨.matched, text.length, some parts⟩ →
      parts.Readable → ∃ version, Version.parse text = .ok version ∧ version.text = .ok text) ∧
    (∀ version : Version, version.WellFormed → version.Writable →
      ∃ text, version.text = .ok text ∧ Version.parse text = .ok version) ∧
    (∀ version other : Version, version.WellFormed → version.Writable → other.WellFormed →
      other.Writable → version.text = other.text → version = other) ∧
    ∀ text : String,
      ((∃ parts : Components, scan text = ⟨.matched, text.length, some parts⟩ ∧ parts.Readable) ↔
        ∃ version, Version.parse text = .ok version) ∧
      ((∃ version, Version.parse text = .ok version) ↔
        ∃ version : Version, version.WellFormed ∧ version.Writable ∧ version.text = .ok text) := by
  have scanned : ∀ text (parts : Components),
      scan text = ⟨.matched, text.length, some parts⟩ ↔ (scan text).components = some parts :=
    fun text parts => scan_eq_matched_iff.trans scan_components_eq_some_iff.symm
  refine ⟨fun text parts matched readable => ?_, fun version => Version.WellFormed.exists_text,
    fun version other h writable h' writable' same => ?_, fun text => ⟨?_, ?_⟩⟩
  · obtain ⟨version, read⟩ := exists_parse_eq_ok_iff.2 ⟨parts, (scanned _ _).1 matched, readable⟩
    exact ⟨version, read, (parse_eq_ok_iff.1 read).2⟩
  · obtain ⟨text, printed, read⟩ := h.exists_text writable
    have read' := parse_eq_ok_iff.2 ⟨h', same.symm.trans printed⟩
    exact Except.ok.inj (read.symm.trans read')
  · simp only [scanned]
    exact exists_parse_eq_ok_iff.symm
  · refine exists_congr fun version => ?_
    rw [parse_eq_ok_iff]
    refine and_congr_right fun _ => ⟨fun printed => ⟨?_, printed⟩, And.right⟩
    exact (Version.text_eq_ok_iff.1 printed).1

/-- A version with metadata but no pre-release, and hyphens in both optional parts. -/
theorem parse_text_of_hyphens :
    (∃ version, Version.parse "1.0.2-x-y.0+a-b" = .ok version ∧
      version.text = .ok "1.0.2-x-y.0+a-b") ∧
    (Version.WellFormed ⟨1, 0, 2, "", "a-b"⟩ ∧ Version.Writable ⟨1, 0, 2, "", "a-b"⟩) ∧
    ∃ text, Version.text ⟨1, 0, 2, "", "a-b"⟩ = .ok text ∧
      Version.parse text = .ok ⟨1, 0, 2, "", "a-b"⟩ := by
  obtain ⟨printed, read, -, -⟩ := parse_text_inverse
  have scanned : scan "1.0.2-x-y.0+a-b" =
      ⟨.matched, "1.0.2-x-y.0+a-b".length, some ⟨"1", "0", "2", "x-y.0", "a-b"⟩⟩ := by
    decide +kernel
  have wellFormed : Version.WellFormed ⟨1, 0, 2, "", "a-b"⟩ := by decide +kernel
  have writable : Version.Writable ⟨1, 0, 2, "", "a-b"⟩ :=
    Version.writable_of_lt_ten (by decide) (by decide) (by decide)
  exact ⟨printed _ _ scanned ⟨by decide, by decide, by decide⟩, ⟨wellFormed, writable⟩,
    read _ wellFormed writable⟩

end SemanticVersion
