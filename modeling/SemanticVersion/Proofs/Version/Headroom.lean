import SemanticVersion.Proofs.Version.Increments
import SemanticVersion.Proofs.Version.Validity

/-!
# Room for one more

An increment can make a number one digit longer.  So a version whose numbers have fewer digits than the
limit has a successor that can be written, at every identifier that has one.

* `Components.HasRoom` — the parts whose numbers leave room for one more digit.
* `exists_parse_or_malformed` — such parts are read.
* `exists_next_text` — the version with these parts is incremented, and the result is written.
-/

namespace SemanticVersion

/-- The parts of which no number is as long as the limit. -/
structure Components.HasRoom (parts : Components) : Prop where
  major : parts.major.length < digitLimit
  minor : parts.minor.length < digitLimit
  patch : parts.patch.length < digitLimit
  prerelease : ∀ token ∈ splitFields parts.prerelease, isNatural token = true →
    token.length < digitLimit

/-- A valid text with room is read. -/
lemma exists_parse_of_isVersion {text : String}
    (room : ∀ parts, (scan text).components = some parts → parts.HasRoom)
    (valid : isVersion text = true) : ∃ version, Version.parse text = .ok version := by
  obtain ⟨parts, scanned⟩ := isVersion_iff_exists_components.1 valid
  obtain ⟨major, minor, patch, -⟩ := room parts scanned
  exact exists_parse_eq_ok_iff.2 ⟨parts, scanned, ⟨major.le, minor.le, patch.le⟩⟩

/-- A text with room is read unless it is malformed. -/
theorem exists_parse_or_malformed {text : String}
    (room : ∀ parts, (scan text).components = some parts → parts.HasRoom) :
    (∃ version, Version.parse text = .ok version) ∨
      ∃ report, Version.parse text = .error (.malformed report) := by
  cases scanned : (scan text).components with
  | none =>
      rw [Version.parse, scanned]
      exact .inr ⟨_, rfl⟩
  | some parts =>
      exact .inl (exists_parse_of_isVersion room (isVersion_iff_exists_components.2 ⟨parts, scanned⟩))

/-- What is read from a text is printed with the parts of this text. -/
lemma scan_components_of_parse {text : String} {version : Version}
    (read : Version.parse text = .ok version) :
    (scan text).components = some version.toComponents := by
  obtain ⟨parts, scanned, read⟩ := parse_eq_ok_iff_ofComponents.1 read
  have wellFormed := (scan_components_eq_some_iff.1 scanned).1
  rw [scanned, ((Version.ofComponents_eq_ok_iff wellFormed).1 read).2]

/-! ## Numbers -/

lemma pow_lt_digitLimit : 10 ^ (digitLimit - 1) < 10 ^ digitLimit :=
  Nat.pow_lt_pow_right (by omega) (by decide)

/-- A natural number of fewer digits than the limit is written, and so is the next one. -/
lemma isWritable_of_length_lt {n : Int} (nonneg : 0 ≤ n)
    (short : (String.ofList (integerDigits n)).length < digitLimit) :
    IsWritable n ∧ IsWritable (n + 1) := by
  rw [String.length_ofList, integerDigits_of_nonneg nonneg] at short
  have small : n.natAbs < 10 ^ (digitLimit - 1) :=
    (Nat.length_toDigits_le_iff (by omega) (by decide)).1 (Nat.le_sub_one_of_lt short)
  have room := pow_lt_digitLimit
  constructor
  · rw [IsWritable]
    omega
  · rw [IsWritable]
    omega

lemma ofDigitChars_lt {cs : List Char} (number : IsNumber cs) (short : cs.length < digitLimit) :
    Nat.ofDigitChars 10 cs 0 < 10 ^ digitLimit - 1 := by
  have small : Nat.ofDigitChars 10 cs 0 < 10 ^ (digitLimit - 1) := by
    rw [← Nat.length_toDigits_le_iff (by omega) (by decide), toDigits_ofDigitChars number]
    exact Nat.le_sub_one_of_lt short
  have room := pow_lt_digitLimit
  omega

/-! ## Versions -/

namespace Version

variable {version : Version}

lemma fieldsBelow_of_hasRoom (h : version.WellFormed) (room : version.toComponents.HasRoom) :
    version.FieldsBelow (10 ^ digitLimit - 1) := by
  intro token mem natural
  have valid := isPrerelease_iff_splitFields.1 h.prerelease token mem
  refine ofDigitChars_lt ⟨natural, valid.2⟩ ?_
  rw [String.length_toList]
  exact room.prerelease token mem natural

/-- **A version with room has a successor that can be written,** unless the metadata or the pre-release
of a stable version is to be incremented. -/
theorem exists_next_text (h : version.WellFormed) (room : version.toComponents.HasRoom)
    {identifier : Identifier} (usable : identifier ≠ .metadata)
    (defined : ¬ (identifier = .prerelease ∧ version.isStable = true)) :
    ∃ next line, version.next identifier = .ok next ∧ next.text = .ok line := by
  obtain ⟨major, major'⟩ := isWritable_of_length_lt h.major room.major
  obtain ⟨minor, minor'⟩ := isWritable_of_length_lt h.minor room.minor
  obtain ⟨patch, patch'⟩ := isWritable_of_length_lt h.patch room.patch
  have zero : IsWritable 0 := isWritable_of_lt_ten (by decide)
  have written (next : Version) (writable : next.Writable) : ∃ line, next.text = .ok line :=
    ⟨_, text_eq_ok_iff.2 ⟨writable, rfl⟩⟩
  cases identifier with
  | major =>
      obtain ⟨line, text⟩ := written ⟨version.major + 1, 0, 0, "", ""⟩ ⟨major', zero, zero⟩
      exact ⟨_, line, rfl, text⟩
  | minor =>
      obtain ⟨line, text⟩ := written ⟨version.major, version.minor + 1, 0, "", ""⟩ ⟨major, minor', zero⟩
      exact ⟨_, line, rfl, text⟩
  | patch =>
      obtain ⟨line, text⟩ := written ⟨version.major, version.minor, version.patch + 1, "", ""⟩
        ⟨major, minor, patch'⟩
      exact ⟨_, line, rfl, text⟩
  | prerelease =>
      have unstable : version.isStable = false := by simpa using defined
      obtain ⟨next, ok⟩ := (fieldsBelow_of_hasRoom h room).exists_nextPrerelease h unstable
      obtain ⟨-, fields, prerelease, -, -, rfl⟩ := nextPrerelease_eq_ok_iff.1 ok
      obtain ⟨line, text⟩ := written { version.stableCore with prerelease } ⟨major, minor, patch⟩
      exact ⟨_, line, ok, text⟩
  | metadata => exact absurd rfl usable

/-- There is no other successor. -/
lemma defined_of_next {identifier : Identifier} {next : Version}
    (ok : version.next identifier = .ok next) :
    identifier ≠ .metadata ∧ ¬ (identifier = .prerelease ∧ version.isStable = true) := by
  constructor
  · rintro rfl
    exact nomatch ok
  · rintro ⟨rfl, stable⟩
    have unstable := (nextPrerelease_eq_ok_iff.1 ok).1
    rw [stable] at unstable
    contradiction

end Version

end SemanticVersion
