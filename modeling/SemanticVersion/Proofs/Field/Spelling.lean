import SemanticVersion.Proofs.Field.Reading

/-!
# What a field forgets

Fields can be read from any text, valid or not, and a field forgets one thing only: the superfluous zeros
in front of a number.  So printing the fields of a text gives back the text in its plain spelling, with
these zeros left out, and **reading the plain spelling gives the same fields again**.  A text is its own
plain spelling exactly when none of its numbers is padded.

Nothing here depends on which characters a token consists of.  A sign, a letter or a digit of another
script makes a token an ordinary text, and so does being empty.

* `IsSplit` — the tokens of a text, and `isSplit_iff`, there is one way to split a text.
* `withoutPadding` — a run of digits without superfluous zeros.
* `respelled` — the plain spelling of a token.
* `text_and_ofToken_respelled` — a field is printed in its plain spelling and is read from it.
* `fields_forget_only_padding` — the same for texts.
-/

namespace SemanticVersion

/-! ## Tokens of any text -/

/-- The tokens of a text: joined by dots they make up the text, there is no dot in them, and there are
none when the text is empty. -/
structure IsSplit (text : String) (tokens : List String) : Prop where
  joined : ".".intercalate tokens = text
  dotless : ∀ token ∈ tokens, '.' ∉ token.toList
  empty : text = "" → tokens = []

lemma dot_notMem_of_mem_splitOn {cs : List Char} : ∀ token ∈ cs.splitOn '.', '.' ∉ token := by
  induction cs with
  | nil => simp
  | cons c cs ih =>
      rw [List.splitOn_cons_eq_if_modifyHead]
      split
      · simpa using ih
      · next other =>
          obtain ⟨first, rest, pieces⟩ := List.exists_cons_of_ne_nil (List.splitOn_ne_nil '.' cs)
          rw [pieces, List.forall_mem_cons] at ih
          rw [pieces, List.modifyHead_cons, List.forall_mem_cons, List.mem_cons, not_or]
          exact ⟨⟨fun same => other (by simp [← same]), ih.1⟩, ih.2⟩

lemma isSplit_splitFields (text : String) : IsSplit text (splitFields text) := by
  refine ⟨intercalate_splitFields text, fun token mem => ?_, fun empty => by rw [empty]; rfl⟩
  rw [splitFields] at mem
  split at mem
  · contradiction
  · obtain ⟨cs, piece, rfl⟩ := List.mem_map.1 mem
    rw [String.toList_ofList]
    exact dot_notMem_of_mem_splitOn cs piece

lemma IsSplit.ne_singleton_empty {text : String} {tokens : List String} (split : IsSplit text tokens) :
    tokens ≠ [""] := by
  rintro rfl
  have none := split.empty split.joined.symm
  contradiction

/-- **There is one way to split a text.** -/
theorem isSplit_iff {text : String} {tokens : List String} :
    IsSplit text tokens ↔ splitFields text = tokens := by
  constructor
  · intro split
    rw [← split.joined]
    exact splitFields_intercalate_of_dotless split.dotless split.ne_singleton_empty
  · rintro rfl
    exact isSplit_splitFields text

/-! ## Superfluous zeros -/

/-- A run of digits without the superfluous zeros in front. -/
def withoutPadding : List Char → List Char
  | [] => []
  | [c] => [c]
  | c :: d :: rest => if c = '0' then withoutPadding (d :: rest) else c :: d :: rest

/-- Leaving out superfluous zeros leaves a number of the grammar, of the same value and no longer. -/
theorem withoutPadding_of_isNumeral {cs : List Char} (numeral : isNumeral cs = true) :
    IsNumber (withoutPadding cs) ∧
      Nat.ofDigitChars 10 (withoutPadding cs) 0 = Nat.ofDigitChars 10 cs 0 ∧
      (withoutPadding cs).length ≤ cs.length := by
  fun_induction withoutPadding cs with
  | case1 => contradiction
  | case2 c =>
      refine ⟨⟨numeral, ?_⟩, rfl, Nat.le_refl 1⟩
      simp [isPadded]
  | case3 d rest ih =>
      obtain ⟨-, digits⟩ := isNumeral_iff.1 numeral
      obtain ⟨number, value, shorter⟩ :=
        ih (isNumeral_iff.2 ⟨by simp, (List.forall_mem_cons.1 digits).2⟩)
      refine ⟨number, ?_, Nat.le_succ_of_le shorter⟩
      rw [value, Nat.ofDigitChars_cons]
      rfl
  | case4 c d rest nonzero =>
      obtain ⟨-, digits⟩ := isNumeral_iff.1 numeral
      obtain ⟨digit, digits⟩ := List.forall_mem_cons.1 digits
      exact ⟨isNumber_iff.2 (.inr ⟨c, d :: rest, rfl, digit, nonzero, digits⟩), rfl, Nat.le_refl _⟩

lemma withoutPadding_eq_self_iff {cs : List Char} (numeral : isNumeral cs = true) :
    withoutPadding cs = cs ↔ isPadded cs = false := by
  constructor
  · intro same
    rw [← same]
    exact (withoutPadding_of_isNumeral numeral).1.2
  · intro unpadded
    obtain rfl | ⟨c, run, rfl, -, nonzero, -⟩ := isNumber_iff.1 ⟨numeral, unpadded⟩
    · rfl
    · cases run with
      | nil => rfl
      | cons d rest => rw [withoutPadding, if_neg nonzero]

/-- The plain spelling of a token: a run of digits loses its superfluous zeros, and any other token stays
as it is. -/
def respelled (token : String) : String :=
  if isNatural token then String.ofList (withoutPadding token.toList) else token

lemma respelled_eq_self_iff {token : String} :
    respelled token = token ↔ isPadded token.toList = false := by
  rw [respelled]
  cases natural : isNatural token with
  | true =>
      rw [if_pos rfl, ← withoutPadding_eq_self_iff natural, ← String.toList_inj, String.toList_ofList]
  | false =>
      have unpadded : isPadded token.toList = false := by
        rw [isNatural] at natural
        simp [isPadded, natural]
      simp [unpadded]

lemma dot_notMem_respelled {token : String} (dotless : '.' ∉ token.toList) :
    '.' ∉ (respelled token).toList := by
  rw [respelled]
  split
  · next natural =>
      rw [String.toList_ofList]
      intro dot
      have digits := (isNumeral_iff.1 (withoutPadding_of_isNumeral natural).1.1).2
      exact absurd (digits '.' dot) (by decide)
  · exact dotless

lemma respelled_eq_empty_iff {token : String} : respelled token = "" ↔ token = "" := by
  rw [respelled]
  split
  · next natural =>
      have nonempty := (isNumeral_iff.1 natural).1
      have left := (isNumeral_iff.1 (withoutPadding_of_isNumeral natural).1.1).1
      rw [← String.toList_eq_nil_iff, ← String.toList_eq_nil_iff, String.toList_ofList]
      exact iff_of_false left nonempty
  · rfl

/-- The plain spelling of a text. -/
def plainSpelling (text : String) : String :=
  ".".intercalate ((splitFields text).map respelled)

/-- The plain spelling of a text is split into the plain spellings of its tokens. -/
lemma splitFields_plainSpelling (text : String) :
    splitFields (plainSpelling text) = (splitFields text).map respelled := by
  have split := isSplit_splitFields text
  refine splitFields_intercalate_of_dotless ?_ ?_
  · rw [List.forall_mem_map]
    exact fun token mem => dot_notMem_respelled (split.dotless token mem)
  · intro single
    obtain ⟨token, tokens, empty⟩ := List.map_eq_singleton_iff.1 single
    rw [respelled_eq_empty_iff] at empty
    exact split.ne_singleton_empty (by rw [tokens, empty])

/-- A text is its own plain spelling when no number in it is padded. -/
theorem plainSpelling_eq_self_iff {text : String} :
    plainSpelling text = text ↔ ∀ token ∈ splitFields text, isPadded token.toList = false := by
  have tokenwise : (splitFields text).map respelled = splitFields text ↔
      ∀ token ∈ splitFields text, respelled token = token := by
    simpa using @List.map_inj_left _ _ (splitFields text) respelled id
  simp only [← respelled_eq_self_iff, ← tokenwise, ← splitFields_plainSpelling]
  constructor
  · intro same
    rw [same]
  · intro same
    rw [← intercalate_splitFields (plainSpelling text), same, intercalate_splitFields]

/-! ## Fields -/

/-- The field that a token stands for: the number of a non-empty run of ASCII digits, and the text of any
other token. -/
def Field.StandsFor (token : String) : Field → Prop
  | .numeric value =>
    (token ≠ "" ∧ ∀ c ∈ token.toList, c.isDigit = true) ∧
      value = Nat.ofDigitChars 10 token.toList 0
  | .alphanumeric text =>
    ¬ (token ≠ "" ∧ ∀ c ∈ token.toList, c.isDigit = true) ∧ text = token

lemma isNatural_iff {token : String} :
    isNatural token = true ↔ token ≠ "" ∧ ∀ c ∈ token.toList, c.isDigit = true := by
  rw [isNatural, isNumeral_iff, ne_eq, String.toList_eq_nil_iff]

lemma standsFor_of_ofToken {token : String} {field : Field} (read : Field.ofToken token = .ok field) :
    field.StandsFor token := by
  obtain ⟨n, natural, digits, rfl⟩ | ⟨other, rfl⟩ := ofToken_eq_ok_cases.1 read
  · obtain ⟨-, rfl⟩ := readNatural_eq_ok_iff_ofDigitChars.1 digits
    exact ⟨isNatural_iff.1 natural, rfl⟩
  · exact ⟨fun natural => by simp [isNatural_iff.2 natural] at other, rfl⟩

/-- A field is printed in the plain spelling of its token, and the plain spelling is read as the same
field. -/
theorem text_and_ofToken_respelled {token : String} {field : Field}
    (read : Field.ofToken token = .ok field) :
    field.text = .ok (respelled token) ∧ Field.ofToken (respelled token) = .ok field := by
  obtain ⟨n, natural, digits, rfl⟩ | ⟨other, rfl⟩ := ofToken_eq_ok_cases.1 read
  · obtain ⟨within, rfl⟩ := readNatural_eq_ok_iff_ofDigitChars.1 digits
    obtain ⟨number, value, shorter⟩ := withoutPadding_of_isNumeral natural
    have plain : readNatural (withoutPadding token.toList) =
        .ok (Nat.ofDigitChars 10 token.toList 0) :=
      readNatural_eq_ok_iff_ofDigitChars.2 ⟨Nat.le_trans shorter within, value⟩
    obtain ⟨writable, printed⟩ := (readNatural_eq_ok_iff number).1 plain
    rw [respelled, if_pos natural]
    refine ⟨writeInteger_eq_ok_iff.2 ⟨writable, by rw [printed]⟩, ofToken_eq_ok_cases.2 (.inl ?_)⟩
    refine ⟨_, ?_, ?_, rfl⟩
    · rw [isNatural, String.toList_ofList]
      exact number.1
    · rw [String.toList_ofList]
      exact plain
  · rw [respelled, if_neg (by simp [other])]
    exact ⟨rfl, read⟩

/-! ## Texts -/

/-- **The fields of a text are printed in its plain spelling, which is read as the same fields.** -/
theorem fieldsText_and_readFields_plainSpelling {text : String} {fields : List Field}
    (read : readFields text = .ok fields) :
    fieldsText fields = .ok (plainSpelling text) ∧ readFields (plainSpelling text) = .ok fields := by
  have tokens := mapM_eq_ok_iff.1 read
  constructor
  · refine fieldsText_eq_ok_iff.2 ⟨(splitFields text).map respelled, ?_, rfl⟩
    rw [List.forall₂_map_right_iff]
    exact (tokens.imp fun token field h => (text_and_ofToken_respelled h).1).flip
  · rw [readFields, mapM_eq_ok_iff, splitFields_plainSpelling, List.forall₂_map_left_iff]
    exact tokens.imp fun token field h => (text_and_ofToken_respelled h).2

/-- A pre-release is determined by its fields. -/
theorem eq_of_readFields_of_isPrerelease {text other : String} {fields : List Field}
    (valid : IsPrerelease text.toList) (read : readFields text = .ok fields)
    (valid' : IsPrerelease other.toList) (read' : readFields other = .ok fields) : other = text := by
  have printed {s : String} (valid : IsPrerelease s.toList) (read : readFields s = .ok fields) :
      fieldsText fields = .ok s :=
    ((readFields_eq_ok_iff (isPrerelease_iff_splitFields.1 (.inr valid))).1 read).2
  have same := (printed valid' read').symm.trans (printed valid read)
  exact Except.ok.inj same

/-- **Fields forget nothing but superfluous zeros.**  Any text without an overlong number is read as one
field for each of its tokens, a number for a non-empty run of ASCII digits and a text for any other
token.  The printed fields are the text again when none of its numbers is padded, and in any case they
are read as the same fields.  No two pre-releases have the same fields. -/
theorem fields_forget_only_padding (text : String)
    (within : ∀ token ∈ splitFields text, isNatural token = true → token.length ≤ digitLimit) :
    IsSplit text (splitFields text) ∧
    ∃ fields, readFields text = .ok fields ∧
      List.Forall₂ Field.StandsFor (splitFields text) fields ∧
      (fieldsText fields = .ok text ↔ ∀ token ∈ splitFields text, isPadded token.toList = false) ∧
      (∃ joined, fieldsText fields = .ok joined ∧ readFields joined = .ok fields) ∧
      (IsPrerelease text.toList →
        ∀ other, IsPrerelease other.toList → readFields other = .ok fields → other = text) := by
  obtain ⟨fields, read⟩ := exists_readFields_eq_ok_iff.2 within
  obtain ⟨printed, again⟩ := fieldsText_and_readFields_plainSpelling read
  refine ⟨isSplit_splitFields text, fields, read, ?_, ?_, ⟨_, printed, again⟩, ?_⟩
  · exact (mapM_eq_ok_iff.1 read).imp fun token field => standsFor_of_ofToken
  · rw [printed, Except.ok.injEq]
    exact plainSpelling_eq_self_iff
  · exact fun valid other valid' read' => eq_of_readFields_of_isPrerelease valid read valid' read'

/-- A text with an empty token, a sign, a digit of another script and two padded numbers. -/
theorem fields_of_padded_numbers :
    (∀ token ∈ splitFields "007..-1.٣.00", isNatural token = true → token.length ≤ digitLimit) ∧
    readFields "007..-1.٣.00" = .ok
      [.numeric 7, .alphanumeric "", .alphanumeric "-1", .alphanumeric "٣", .numeric 0] ∧
    ∃ joined, joined ≠ "007..-1.٣.00" ∧ readFields joined = readFields "007..-1.٣.00" := by
  have within : ∀ token ∈ splitFields "007..-1.٣.00", isNatural token = true →
      token.length ≤ digitLimit := by
    decide +kernel
  obtain ⟨-, fields, read, -, kept, ⟨joined, printed, again⟩, -⟩ :=
    fields_forget_only_padding "007..-1.٣.00" within
  refine ⟨within, by decide +kernel, joined, ?_, by rw [again, read]⟩
  rintro rfl
  exact absurd (kept.1 printed) (by decide +kernel)

end SemanticVersion
