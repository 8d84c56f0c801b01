import SemanticVersion.Proofs.Decimal.Numeral
import SemanticVersion.Proofs.Grammar.Tokens
import SemanticVersion.Proofs.Outcome
import SemanticVersion.Version.Change

/-!
# Reading and printing fields

A field forgets the spelling of its token, but a token of a pre-release has one spelling only.  So
nothing is lost when a pre-release is read as fields and the fields are printed again, and printing
fields of the right kind gives a pre-release.  Incrementing a pre-release relies on both: it changes
fields, and what it prints is checked by nobody.

* `Field.WellFormed` — the fields that stand for tokens of a pre-release.
* `ofToken_eq_ok_cases` — what a token is read as.
* `ofToken_eq_ok_iff`, `readFields_eq_ok_iff` — reading in terms of printing.
* `exists_readFields_eq_ok_iff` — the texts that can be read.
* `forall_mem_advance` — what the fields that follow inherit.
* `wellFormed_of_mem_advance` — the fields that follow well-formed fields are well-formed.
-/

namespace SemanticVersion

/-- The fields of pre-releases: the natural numbers, and the tokens that are no run of digits. -/
def Field.WellFormed : Field → Prop
  | .numeric value => 0 ≤ value
  | .alphanumeric text => IsPrereleaseToken text.toList ∧ isNatural text = false

/-! ## One token -/

lemma isPrereleaseToken_of_isNumber {cs : List Char} (number : IsNumber cs) :
    IsPrereleaseToken cs := by
  obtain ⟨nonempty, digits⟩ := isNumeral_iff.1 number.1
  exact ⟨⟨nonempty, fun c hc => isTokenChar_of_isDigit (digits c hc)⟩, number.2⟩

/-- A well-formed field is printed as a token of a pre-release. -/
theorem Field.WellFormed.isPrereleaseToken {field : Field} (h : field.WellFormed) {token : String}
    (printed : field.text = .ok token) : IsPrereleaseToken token.toList := by
  cases field with
  | numeric value =>
      obtain ⟨-, rfl⟩ := writeInteger_eq_ok_iff.1 printed
      rw [String.toList_ofList]
      exact isPrereleaseToken_of_isNumber (isNumber_integerDigits_iff.2 h)
  | alphanumeric text =>
      obtain rfl := Except.ok.inj printed
      exact h.1

/-- A run of digits is read as its number, and any other token is read as itself. -/
theorem ofToken_eq_ok_cases {token : String} {field : Field} : Field.ofToken token = .ok field ↔
    (∃ n : Nat, isNatural token = true ∧ readNatural token.toList = .ok n ∧ field = .numeric n) ∨
      isNatural token = false ∧ field = .alphanumeric token := by
  constructor
  · intro read
    rw [Field.ofToken] at read
    split at read
    · next natural =>
        obtain ⟨n, digits, same⟩ := bind_eq_ok_iff.1 read
        exact .inl ⟨n, natural, digits, (Except.ok.inj same).symm⟩
    · next other => exact .inr ⟨by simpa using other, (Except.ok.inj read).symm⟩
  · rintro (⟨n, natural, digits, rfl⟩ | ⟨other, rfl⟩)
    · rw [Field.ofToken, if_pos natural, digits]
      rfl
    · rw [Field.ofToken, if_neg (by simp [other])]
      rfl

/-- What is read from a token of a pre-release is the well-formed field that is printed as it. -/
theorem ofToken_eq_ok_iff {token : String} (valid : IsPrereleaseToken token.toList)
    {field : Field} : Field.ofToken token = .ok field ↔ field.WellFormed ∧ field.text = .ok token := by
  constructor
  · intro read
    rcases ofToken_eq_ok_cases.1 read with ⟨value, natural, digits, rfl⟩ | ⟨other, rfl⟩
    · obtain ⟨writable, digits⟩ := (readNatural_eq_ok_iff ⟨natural, valid.2⟩).1 digits
      refine ⟨Int.natCast_nonneg value, writeInteger_eq_ok_iff.2 ⟨writable, ?_⟩⟩
      rw [digits, String.ofList_toList]
    · exact ⟨⟨valid, other⟩, rfl⟩
  · rintro ⟨wellFormed, printed⟩
    cases field with
    | numeric value =>
        obtain ⟨value, rfl⟩ := Int.eq_ofNat_of_zero_le wellFormed
        obtain ⟨writable, rfl⟩ := writeInteger_eq_ok_iff.1 printed
        have number : IsNumber (integerDigits value) := isNumber_integerDigits_iff.2 wellFormed
        have natural : isNatural (String.ofList (integerDigits value)) = true := by
          rw [isNatural, String.toList_ofList]
          exact number.1
        refine ofToken_eq_ok_cases.2 (.inl ⟨value, natural, ?_, rfl⟩)
        rw [String.toList_ofList, (readNatural_eq_ok_iff number).2 ⟨writable, rfl⟩]
    | alphanumeric text =>
        obtain rfl := Except.ok.inj printed
        exact ofToken_eq_ok_cases.2 (.inr ⟨wellFormed.2, rfl⟩)

/-- A token is read as a field unless it is a run of digits over the limit. -/
lemma exists_ofToken_eq_ok_iff {token : String} :
    (∃ field, Field.ofToken token = .ok field) ↔
      (isNatural token = true → token.length ≤ digitLimit) := by
  rw [← String.length_toList, ← exists_readNatural_eq_ok_iff]
  constructor
  · rintro ⟨field, read⟩ natural
    rcases ofToken_eq_ok_cases.1 read with ⟨n, -, digits, -⟩ | ⟨other, -⟩
    · exact ⟨n, digits⟩
    · rw [other] at natural
      contradiction
  · intro within
    cases natural : isNatural token with
    | true =>
        obtain ⟨n, digits⟩ := within natural
        exact ⟨_, ofToken_eq_ok_cases.2 (.inl ⟨n, natural, digits, rfl⟩)⟩
    | false => exact ⟨_, ofToken_eq_ok_cases.2 (.inr ⟨natural, rfl⟩)⟩

/-! ## Dotted lists -/

/-- Joining tokens without dots and splitting the text gives back the tokens.  A single empty token is
the exception, because the empty text has no tokens at all. -/
lemma splitFields_intercalate_of_dotless {tokens : List String}
    (dotless : ∀ token ∈ tokens, '.' ∉ token.toList) (different : tokens ≠ [""]) :
    splitFields (".".intercalate tokens) = tokens := by
  cases tokens with
  | nil => rfl
  | cons token rest =>
      have pieces : ∀ piece ∈ (token :: rest).map String.toList, '.' ∉ piece := by
        simpa using dotless
      have split := List.splitOn_intercalate '.' pieces (by simp)
      have nonempty : ".".intercalate (token :: rest) ≠ "" := by
        intro empty
        have text := congrArg String.toList empty
        rw [String.toList_intercalate] at text
        cases rest with
        | nil =>
            have first : token.toList = [] := by simpa [List.intercalate] using text
            exact different (by rw [String.toList_eq_nil_iff.1 first])
        | cons next rest => simp [List.intercalate] at text
      rw [splitFields, if_neg (by simpa using nonempty), String.toList_intercalate]
      rw [show ".".toList = ['.'] from rfl, split, List.map_map]
      simp

/-- Joining tokens and splitting the text gives back the tokens. -/
lemma splitFields_intercalate {tokens : List String}
    (valid : ∀ token ∈ tokens, IsPrereleaseToken token.toList) :
    splitFields (".".intercalate tokens) = tokens := by
  refine splitFields_intercalate_of_dotless (fun token mem => (valid token mem).1.dot_notMem) ?_
  rintro rfl
  exact (valid "" List.mem_cons_self).1.1 rfl

lemma fieldsText_eq_ok_iff {fields : List Field} {text : String} :
    fieldsText fields = .ok text ↔
      ∃ tokens, List.Forall₂ (fun field token => field.text = .ok token) fields tokens ∧
        ".".intercalate tokens = text := by
  rw [fieldsText, bind_eq_ok_iff]
  simp only [mapM_eq_ok_iff]
  refine exists_congr fun tokens => and_congr_right fun _ => ?_
  exact ⟨Except.ok.inj, congrArg Except.ok⟩

/-- Well-formed fields are printed as tokens of a pre-release joined by dots. -/
theorem splitFields_of_fieldsText {fields : List Field} {tokens : List String}
    (wellFormed : ∀ field ∈ fields, field.WellFormed)
    (printed : List.Forall₂ (fun field token => field.text = .ok token) fields tokens) :
    (∀ token ∈ tokens, IsPrereleaseToken token.toList) ∧
      splitFields (".".intercalate tokens) = tokens := by
  have valid : ∀ token ∈ tokens, IsPrereleaseToken token.toList := by
    induction printed with
    | nil => simp
    | cons head tail ih =>
        rw [List.forall_mem_cons] at wellFormed ⊢
        exact ⟨wellFormed.1.isPrereleaseToken head, ih wellFormed.2⟩
  exact ⟨valid, splitFields_intercalate valid⟩

/-- What is read from a pre-release are the well-formed fields that are printed as it. -/
theorem readFields_eq_ok_iff {text : String}
    (valid : ∀ token ∈ splitFields text, IsPrereleaseToken token.toList) {fields : List Field} :
    readFields text = .ok fields ↔
      (∀ field ∈ fields, field.WellFormed) ∧ fieldsText fields = .ok text := by
  rw [readFields, mapM_eq_ok_iff, fieldsText_eq_ok_iff]
  have pointwise : ∀ {tokens : List String},
      (∀ token ∈ tokens, IsPrereleaseToken token.toList) →
      (List.Forall₂ (fun token field => Field.ofToken token = .ok field) tokens fields ↔
        (∀ field ∈ fields, field.WellFormed) ∧
          List.Forall₂ (fun field token => field.text = .ok token) fields tokens) := by
    intro tokens valid
    induction fields generalizing tokens with
    | nil => simp
    | cons field fields ih =>
        cases tokens with
        | nil => simp
        | cons token tokens =>
            rw [List.forall_mem_cons] at valid
            rw [List.forall₂_cons, List.forall₂_cons, List.forall_mem_cons, ih valid.2,
              ofToken_eq_ok_iff valid.1]
            tauto
  rw [pointwise valid]
  constructor
  · rintro ⟨wellFormed, printed⟩
    exact ⟨wellFormed, _, printed, intercalate_splitFields text⟩
  · rintro ⟨wellFormed, tokens, printed, rfl⟩
    rw [(splitFields_of_fieldsText wellFormed printed).2]
    exact ⟨wellFormed, printed⟩

/-- A text is read as fields when no run of digits among its tokens is over the limit. -/
theorem exists_readFields_eq_ok_iff {text : String} :
    (∃ fields, readFields text = .ok fields) ↔
      ∀ token ∈ splitFields text, isNatural token = true → token.length ≤ digitLimit := by
  rw [readFields, exists_mapM_eq_ok_iff]
  simp only [exists_ofToken_eq_ok_iff]

/-! ## The fields that follow -/

lemma advance_cons_of_ne_nil {field : Field} {fields : List Field} (h : fields ≠ []) :
    advance (field :: fields) = field :: advance fields := by
  obtain ⟨next, rest, rfl⟩ := List.exists_cons_of_ne_nil h
  cases field <;> rfl

/-- The fields that follow inherit what holds of the fields, if it passes to the next number and holds
of the number one. -/
theorem forall_mem_advance {before after : Field → Prop} (kept : ∀ field, before field → after field)
    (successor : ∀ value, before (.numeric value) → after (.numeric (value + 1)))
    (one : after (.numeric 1)) {fields : List Field} (h : ∀ field ∈ fields, before field) :
    ∀ field ∈ advance fields, after field := by
  induction fields with
  | nil => simp [advance]
  | cons field fields ih =>
      rw [List.forall_mem_cons] at h
      obtain ⟨head, tail⟩ := h
      by_cases last : fields = []
      · subst last
        cases field with
        | numeric value => simpa [advance] using successor value head
        | alphanumeric text => simpa [advance] using ⟨kept _ head, one⟩
      · rw [advance_cons_of_ne_nil last, List.forall_mem_cons]
        exact ⟨kept _ head, ih tail⟩

theorem wellFormed_of_mem_advance {fields : List Field}
    (wellFormed : ∀ field ∈ fields, field.WellFormed) :
    ∀ field ∈ advance fields, field.WellFormed := by
  refine forall_mem_advance (fun _ h => h) (fun value nonneg => ?_) ?_ wellFormed
  · exact Int.add_nonneg nonneg (by decide)
  · exact Int.zero_le_ofNat 1

/-- What is printed for well-formed fields is a pre-release, and empty when there are none. -/
theorem isPrerelease_of_fieldsText {fields : List Field}
    (wellFormed : ∀ field ∈ fields, field.WellFormed) {text : String}
    (printed : fieldsText fields = .ok text) : text = "" ∨ IsPrerelease text.toList := by
  obtain ⟨tokens, each, rfl⟩ := fieldsText_eq_ok_iff.1 printed
  obtain ⟨valid, split⟩ := splitFields_of_fieldsText wellFormed each
  rw [isPrerelease_iff_splitFields, split]
  exact valid

end SemanticVersion
