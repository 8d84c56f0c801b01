import SemanticVersion.Proofs.Version.Increments

/-!
# Incrementing a pre-release again and again

An increment of a pre-release reads all of its fields, changes the end of the list, and prints all fields
again.  Over any number of increments only one number changes.  It is the last token when that is a number, and
otherwise a new token that the first increment puts behind it.  From then on every increment finds this number
in last place and counts it up.

What comes in front of the number is read and printed each time.  A field of a pre-release has one spelling
only, so these tokens stay as they are, character for character, also when the number gets another digit.

* `Version.nextTimes` — the version after a number of increments.
* `Version.CountsAt` — the invariant: which number has been reached, and what stands in front of it.
* `WellFormed.exists_countsAt` — one increment reaches the next number.
* `WellFormed.exists_countsAt_nextTimes` — and any number of increments the number that is as much greater.
* `nextTimes_prerelease` — both kinds of pre-releases.
-/

namespace SemanticVersion

/-! ## The end of a list of fields -/

/-- What follows some fields depends on their end only. -/
lemma advance_append (front : List Field) {back : List Field} (nonempty : back ≠ []) :
    advance (front ++ back) = front ++ advance back := by
  induction front with
  | nil => rfl
  | cons field front ih =>
      have behind : front ++ back ≠ [] := List.append_ne_nil_of_right_ne_nil _ nonempty
      rw [List.cons_append, advance_cons_of_ne_nil behind, ih, List.cons_append]

/-- A number in last place is counted up. -/
lemma advance_concat_numeric (front : List Field) (n : Nat) :
    advance (front ++ [.numeric n]) = front ++ [.numeric (n + 1 : Nat)] := by
  rw [advance_append _ (List.cons_ne_nil _ _)]
  rfl

/-- Behind a text in last place a number begins. -/
lemma advance_concat_alphanumeric (front : List Field) (text : String) :
    advance (front ++ [.alphanumeric text]) =
      front ++ [.alphanumeric text] ++ [.numeric (1 : Nat)] := by
  rw [advance_append _ (List.cons_ne_nil _ _), List.append_assoc]
  rfl

/-- A natural number within the limit is printed as its numeral. -/
lemma text_numeric {n : Nat} (room : n < 10 ^ digitLimit) :
    (Field.numeric n).text = .ok (toString n) := by
  have writable : IsWritable n := by
    rwa [IsWritable, Int.natAbs_natCast]
  refine writeInteger_eq_ok_iff.2 ⟨writable, ?_⟩
  rw [integerDigits_of_nonneg (Int.natCast_nonneg n), Int.natAbs_natCast]
  rfl

/-- Fields with a number in last place are printed as their tokens. -/
lemma fieldsText_append_numeric {front : List Field} {tokens : List String}
    (printed : front.mapM Field.text = .ok tokens) {n : Nat} (room : n < 10 ^ digitLimit) :
    fieldsText (front ++ [.numeric n]) = .ok (".".intercalate (tokens ++ [toString n])) := by
  have each : (front ++ [Field.numeric n]).mapM Field.text = .ok (tokens ++ [toString n]) :=
    mapM_concat_eq_ok_iff.2 ⟨tokens, _, printed, text_numeric room, rfl⟩
  rw [fieldsText, each]
  rfl

namespace Version

variable {version : Version}

/-- The fields of a well-formed version are printed as its tokens. -/
lemma WellFormed.mapM_text (h : version.WellFormed) {fields : List Field}
    (read : version.prereleaseFields = .ok fields) :
    fields.mapM Field.text = .ok (splitFields version.prerelease) := by
  obtain ⟨wellFormed, printed⟩ :=
    (readFields_eq_ok_iff (isPrerelease_iff_splitFields.1 h.prerelease)).1 read
  obtain ⟨tokens, each, joined⟩ := fieldsText_eq_ok_iff.1 printed
  rw [← joined, (splitFields_of_fieldsText wellFormed each).2]
  exact mapM_eq_ok_iff.2 each

/-! ## Increments -/

/-- The version after a number of increments at an identifier. -/
def nextTimes (version : Version) (identifier : Identifier) : Nat → Except Error Version
  | 0 => .ok version
  | count + 1 => do (← version.nextTimes identifier count).next identifier

/-- The version comes from another one by counting up to a number, which is its last field, while the tokens
in front stay the same. -/
structure CountsAt (version start : Version) (front : List Field) (tokens : List String)
    (number : Nat) : Prop where
  wellFormed : version.WellFormed
  fields : version.prereleaseFields = .ok (front ++ [.numeric number])
  eq : version = { start.stableCore with prerelease := ".".intercalate (tokens ++ [toString number]) }

/-- An increment that leads to a number in last place reaches this number. -/
theorem WellFormed.exists_countsAt (h : version.WellFormed) {fields front : List Field}
    (read : version.prereleaseFields = .ok fields) {number : Nat}
    (advanced : advance fields = front ++ [.numeric number]) {tokens : List String}
    (printed : front.mapM Field.text = .ok tokens) (room : number < 10 ^ digitLimit) :
    ∃ next : Version, version.nextPrerelease = .ok next ∧
      next.CountsAt version front tokens number := by
  have unstable : version.isStable = false := by
    rw [(hasStanding_of_fields read).isStable_eq_isEmpty, List.isEmpty_eq_false_iff]
    rintro rfl
    exact List.append_ne_nil_of_right_ne_nil front (List.cons_ne_nil _ _) advanced.symm
  have text := fieldsText_append_numeric printed room
  rw [← advanced] at text
  have ok := nextPrerelease_eq_ok_iff.2 ⟨unstable, fields, _, read, text, rfl⟩
  refine ⟨_, ok, h.nextPrerelease ok, ?_, rfl⟩
  rw [← advanced]
  exact (h.fields_next read text).2

/-- Every further increment counts the number up by one. -/
theorem WellFormed.exists_countsAt_nextTimes (h : version.WellFormed) {fields front : List Field}
    (read : version.prereleaseFields = .ok fields) {number : Nat}
    (advanced : advance fields = front ++ [.numeric (number + 1 : Nat)]) {tokens : List String}
    (printed : front.mapM Field.text = .ok tokens) {count : Nat} (positive : 0 < count)
    (room : number + count < 10 ^ digitLimit) :
    ∃ next : Version, version.nextTimes .prerelease count = .ok next ∧
      next.CountsAt version front tokens (number + count) := by
  induction count, positive using Nat.le_induction with
  | base => exact h.exists_countsAt read advanced printed room
  | succ count positive ih =>
      obtain ⟨last, ok, counted⟩ := ih (by omega)
      obtain ⟨next, ok', counted'⟩ := counted.wellFormed.exists_countsAt counted.fields
        (advance_concat_numeric front (number + count)) printed room
      refine ⟨next, bind_eq_ok_iff.2 ⟨last, ok, ok'⟩, counted'.wellFormed, counted'.fields, ?_⟩
      -- the numbers are those of the last version, which are those of the first one
      rw [counted'.eq, counted.eq]
      rfl

end Version

/-- **Incrementing a pre-release a number of times.**  The last token decides.  When it is a number, it is
replaced by the number that is as much greater as there are increments.  When it is not, the number of
increments is put behind all tokens.  Either way the numbers and all other tokens stay the same, and there is no
metadata any more.  Nothing fails as long as the number that is counted keeps to the digit limit. -/
theorem nextTimes_prerelease (version : Version) (wellFormed : version.WellFormed)
    (unstable : version.isStable = false) (readable : version.FieldsReadable) :
    ∃ front last, splitFields version.prerelease = front ++ [last] ∧
      ((∃ n, isNatural last = true ∧ readNatural last.toList = .ok n ∧
        ∀ count, 0 < count → n + count < 10 ^ digitLimit →
          version.nextTimes .prerelease count = .ok { version.stableCore with
            prerelease := ".".intercalate (front ++ [toString (n + count)]) }) ∨
      isNatural last = false ∧
        ∀ count, 0 < count → count < 10 ^ digitLimit →
          version.nextTimes .prerelease count = .ok { version.stableCore with
            prerelease := version.prerelease ++ "." ++ toString count }) := by
  obtain ⟨fields, read⟩ := exists_readFields_eq_ok_iff.2 readable
  obtain rfl | ⟨front, field, rfl⟩ := List.eq_nil_or_concat' fields
  · rw [(Version.hasStanding_of_fields read).isStable_eq_isEmpty] at unstable
    contradiction
  have spelled := wellFormed.mapM_text read
  obtain ⟨tokens, token, printed, last, split⟩ := mapM_concat_eq_ok_iff.1 spelled
  have field_wellFormed : field.WellFormed :=
    ((readFields_eq_ok_iff (isPrerelease_iff_splitFields.1 wellFormed.prerelease)).1 read).1 field
      (by simp)
  have token_read : Field.ofToken token = .ok field :=
    (ofToken_eq_ok_iff (field_wellFormed.isPrereleaseToken last)).2 ⟨field_wellFormed, last⟩
  refine ⟨tokens, token, split.symm, ?_⟩
  rcases ofToken_eq_ok_cases.1 token_read with ⟨n, natural, digits, rfl⟩ | ⟨other, rfl⟩
  · refine .inl ⟨n, natural, digits, ?_⟩
    intro count positive room
    obtain ⟨next, ok, counted⟩ := wellFormed.exists_countsAt_nextTimes read
      (advance_concat_numeric front n) printed positive room
    rw [ok, counted.eq]
  · refine .inr ⟨other, ?_⟩
    intro count positive room
    have room : 0 + count < 10 ^ digitLimit := by
      rwa [Nat.zero_add]
    obtain ⟨next, ok, counted⟩ := wellFormed.exists_countsAt_nextTimes read
      (advance_concat_alphanumeric front token) spelled positive room
    have nonempty : splitFields version.prerelease ≠ [] := by
      rw [← split]
      exact List.append_ne_nil_of_right_ne_nil _ (List.cons_ne_nil _ _)
    rw [ok, counted.eq, String.intercalate_append_of_ne_nil nonempty (List.cons_ne_nil _ _),
      intercalate_splitFields, String.intercalate_singleton, Nat.zero_add]

/-- A number that gets a second digit, with metadata that is dropped, and a number behind a token with a
hyphen.  The number in between is not counted. -/
theorem nextTimes_of_second_digit :
    (Version.WellFormed ⟨1, 0, 0, "rc.9", "a"⟩ ∧ Version.FieldsReadable ⟨1, 0, 0, "rc.9", "a"⟩) ∧
    Version.nextTimes ⟨1, 0, 0, "rc.9", "a"⟩ .prerelease 3 = .ok ⟨1, 0, 0, "rc.12", ""⟩ ∧
    (Version.WellFormed ⟨1, 0, 0, "rc.0.x-y", ""⟩ ∧
      Version.FieldsReadable ⟨1, 0, 0, "rc.0.x-y", ""⟩) ∧
    Version.nextTimes ⟨1, 0, 0, "rc.0.x-y", ""⟩ .prerelease 10 =
      .ok ⟨1, 0, 0, "rc.0.x-y.10", ""⟩ := by
  have wellFormed : Version.WellFormed ⟨1, 0, 0, "rc.9", "a"⟩ := by decide +kernel
  have readable : Version.FieldsReadable ⟨1, 0, 0, "rc.9", "a"⟩ := by decide +kernel
  have wellFormed' : Version.WellFormed ⟨1, 0, 0, "rc.0.x-y", ""⟩ := by decide +kernel
  have readable' : Version.FieldsReadable ⟨1, 0, 0, "rc.0.x-y", ""⟩ := by decide +kernel
  have tokens : splitFields "rc.9" = ["rc"] ++ ["9"] := by decide +kernel
  have tokens' : splitFields "rc.0.x-y" = ["rc", "0"] ++ ["x-y"] := by decide +kernel
  refine ⟨⟨wellFormed, readable⟩, ?_, ⟨wellFormed', readable'⟩, ?_⟩
  · obtain ⟨front, last, split, outcome⟩ := nextTimes_prerelease _ wellFormed rfl readable
    obtain ⟨rfl, rfl⟩ : front = ["rc"] ∧ last = "9" := by
      simpa using List.append_inj' (split.symm.trans tokens) rfl
    rcases outcome with ⟨n, -, digits, run⟩ | ⟨other, -⟩
    · obtain rfl : 9 = n := Except.ok.inj digits
      exact run 3 (by decide) (by decide +kernel)
    · exact absurd other (by decide +kernel)
  · obtain ⟨front, last, split, outcome⟩ := nextTimes_prerelease _ wellFormed' rfl readable'
    obtain ⟨rfl, rfl⟩ : front = ["rc", "0"] ∧ last = "x-y" := by
      simpa using List.append_inj' (split.symm.trans tokens') rfl
    rcases outcome with ⟨n, natural, -, -⟩ | ⟨-, run⟩
    · exact absurd natural (by decide +kernel)
    · exact run 10 (by decide) (by decide +kernel)

end SemanticVersion
