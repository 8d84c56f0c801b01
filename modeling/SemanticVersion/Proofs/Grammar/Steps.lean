import SemanticVersion.Proofs.Grammar.Language
import SemanticVersion.Proofs.Grammar.Lookahead

/-!
# What the steps of the scanner read

For each step of the scanner there are two facts.  `reads_…` says which language it reads, looking
one character ahead, and so what its failures mean; `…_append` says that it does read every member
of the language, provided that what follows cannot belong to it.

The two together leave no choice to the scanner.  A number that is followed by a digit, or a token
that is followed by a letter, is read no further than the language allows or not read at all, and in
neither case does it matter what comes behind the character ahead.

* `reads_scanNumber`, `scanNumber_append` — the numbers.
* `reads_scanChar` — one given character.
* `reads_scanTokens`, `scanTokens_append` — dotted lists of tokens that are not refused.
* `reads_scanMarked`, `scanMarked_append` — the optional parts.
-/

namespace SemanticVersion

/-! ## Numbers -/

lemma scanNumber_append {number rest : List Char} (h : IsNumber number)
    (stop : ∀ c ∈ rest.head?, c.isDigit = false) :
    scanNumber (number ++ rest) = .ok (number, rest) := by
  obtain rfl | ⟨c, run, rfl, digit, nonzero, inside⟩ := isNumber_iff.1 h
  · rfl
  · simp [scanNumber, digit, nonzero, takeWhile_dropWhile_run inside stop]

/-- After a leading zero anything may follow. -/
lemma scanNumber_zero (rest : List Char) : scanNumber ('0' :: rest) = .ok (['0'], rest) := rfl

lemma scanNumber_of_no_digit {cs : List Char} (h : ∀ c ∈ cs.head?, c.isDigit = false) :
    scanNumber cs = .error cs := by
  cases cs with
  | nil => rfl
  | cons c rest =>
      have no_digit : c.isDigit = false := h c rfl
      have nonzero : c ≠ '0' := by
        rintro rfl
        contradiction
      simp [scanNumber, no_digit, nonzero]

theorem reads_scanNumber : Reads scanNumber fun number read => number = read ∧ IsNumber read where
  possible := ⟨['0'], ['0'], rfl, isNumber_zero⟩
  stops := by
    intro cs
    obtain ⟨run, rest, rfl, inside, stop⟩ := exists_run Char.isDigit cs
    cases run with
    | nil =>
        refine ⟨[], rest, rfl, .inr ⟨⟨['0'], ['0'], rfl, isNumber_zero⟩, fun other same => ?_⟩⟩
        exact scanNumber_of_no_digit (by simpa [same] using stop)
    | cons c run =>
        by_cases zero : c = '0'
        · subst zero
          exact ⟨['0'], run ++ rest, rfl, .inl ⟨['0'], ⟨rfl, isNumber_zero⟩,
            fun other _ => scanNumber_zero other⟩⟩
        · have number : IsNumber (c :: run) := isNumber_iff.2 <| .inr
            ⟨c, run, rfl, inside c (by simp), zero, fun d hd => inside d (by simp [hd])⟩
          exact ⟨c :: run, rest, rfl, .inl ⟨c :: run, ⟨rfl, number⟩,
            fun other same => scanNumber_append number (by simpa [same] using stop)⟩⟩

/-! ## One character -/

lemma scanChar_cons (expected : Char) (rest : List Char) :
    scanChar expected (expected :: rest) = .ok ((), rest) := by
  simp [scanChar]

theorem reads_scanChar (expected : Char) :
    Reads (scanChar expected) fun _ read => read = [expected] where
  possible := ⟨(), [expected], rfl⟩
  stops := by
    intro cs
    have fails : ∀ rest : List Char, rest.head? ≠ some expected →
        FailsAt (scanChar expected) [] rest := by
      intro rest unexpected other same
      rw [← same] at unexpected
      cases other with
      | nil => rfl
      | cons c other =>
          have differs : c ≠ expected := by simpa using unexpected
          simp [scanChar, differs]
    by_cases found : cs.head? = some expected
    · obtain ⟨rest, rfl⟩ := List.head?_eq_some_iff.1 found
      exact ⟨[expected], rest, rfl, .inl ⟨(), rfl, fun other _ => scanChar_cons expected other⟩⟩
    · exact ⟨[], cs, rfl, .inr ⟨⟨(), [expected], rfl⟩, fails cs found⟩⟩

/-! ## Tokens -/

section Tokens

variable {refused : List Char → Bool}

/-- The tokens that a step accepts when it refuses some of them. -/
def IsAccepted (refused : List Char → Bool) (token : List Char) : Prop :=
  IsToken token ∧ refused token = false

lemma scanToken_run {token rest : List Char} (inside : ∀ c ∈ token, isTokenChar c = true)
    (stop : ∀ c ∈ rest.head?, isTokenChar c = false) :
    scanToken refused (token ++ rest)
      = if token = [] ∨ refused token = true then .error rest else .ok (token, rest) := by
  obtain ⟨taken, left⟩ := takeWhile_dropWhile_run inside stop
  rw [scanToken, taken, left]
  by_cases empty : token = []
  · simp [empty]
  · by_cases refuse : refused token = true <;> simp [empty, refuse]

/-- A failed token ends the list. -/
lemma scanTokens_of_error {cs rest : List Char} (h : scanToken refused cs = .error rest) :
    scanTokens refused cs = .error rest := by
  rw [scanTokens]
  split <;> simp_all

/-- Without a dot the list is over. -/
lemma scanTokens_of_stop {cs token rest : List Char}
    (h : scanToken refused cs = .ok (token, rest)) (stop : rest.head? ≠ some '.') :
    scanTokens refused cs = .ok (token, rest) := by
  rw [scanTokens]
  split
  · simp_all
  · next same =>
      obtain ⟨rfl, rfl⟩ : _ ∧ _ := by simpa [h] using same.symm
      exact absurd rfl stop
  · simp_all

/-- The characters that end a list of tokens. -/
def EndsTokens (rest : List Char) : Prop :=
  ∀ c ∈ rest.head?, isTokenChar c = false ∧ c ≠ '.'

lemma scanToken_append {token rest : List Char} (h : IsAccepted refused token)
    (stop : ∀ c ∈ rest.head?, isTokenChar c = false) :
    scanToken refused (token ++ rest) = .ok (token, rest) := by
  rw [scanToken_run h.1.2 stop]
  simp [h.1.1, h.2]

/-- Behind an accepted token and a dot the list goes on. -/
lemma scanTokens_token_dot {token : List Char} (h : IsAccepted refused token) (more : List Char) :
    scanTokens refused (token ++ ['.'] ++ more)
      = followedBy (scanTokens refused) (fun tokens rest => .ok (token ++ '.' :: tokens, rest))
          more := by
  have read : scanToken refused (token ++ '.' :: more) = .ok (token, '.' :: more) :=
    scanToken_append h (head_cons_outside (by decide) more)
  rw [List.append_assoc, List.singleton_append, scanTokens]
  split
  · simp_all
  · next token' more' same =>
      obtain ⟨rfl, rfl⟩ : token = token' ∧ more = more' := by simpa [read] using same
      cases list : scanTokens refused more with
      | error rest => simp [followedBy, list]
      | ok out => simp [followedBy, list]
  · simp_all

theorem scanTokens_append {tokens rest : List Char} (h : IsDotted (IsAccepted refused) tokens)
    (stop : EndsTokens rest) : scanTokens refused (tokens ++ rest) = .ok (tokens, rest) := by
  induction h using IsDotted.induct with
  | single token accepted =>
      have read := scanToken_append accepted fun c hc => (stop c hc).1
      exact scanTokens_of_stop read fun dot => (stop '.' dot).2 rfl
  | cons token more accepted _ ih =>
      have behind := scanTokens_token_dot accepted (more ++ rest)
      rw [followedBy_ok ih] at behind
      simpa using behind

/-- A letter behind a token makes it acceptable, as long as a letter is all that is missing. -/
lemma isAccepted_append_letter (forgiving : ∀ token, refused (token ++ ['a']) = false)
    {token : List Char} (inside : ∀ c ∈ token, isTokenChar c = true) :
    IsAccepted refused (token ++ ['a']) := by
  refine ⟨⟨by simp, fun c hc => ?_⟩, forgiving token⟩
  rcases List.mem_append.1 hc with hc | hc
  · exact inside c hc
  · obtain rfl := List.mem_singleton.1 hc
    decide

/-- A list of tokens is read up to its end or up to a token that cannot stay as it is.  The latter
may be continued, because a step that refuses a token is content with one more letter. -/
theorem reads_scanTokens (forgiving : ∀ token, refused (token ++ ['a']) = false) :
    Reads (scanTokens refused) fun tokens read =>
      tokens = read ∧ IsDotted (IsAccepted refused) read where
  possible := by
    have letter : IsAccepted refused ([] ++ ['a']) :=
      isAccepted_append_letter forgiving (List.forall_mem_nil _)
    exact ⟨['a'], ['a'], rfl, .single letter⟩
  stops := by
    intro cs
    induction n : cs.length using Nat.strongRecOn generalizing cs with
    | ind n ih =>
        obtain ⟨token, rest, rfl, inside, stop⟩ := exists_run isTokenChar cs
        by_cases failed : token = [] ∨ refused token = true
        -- one more letter repairs an empty token and a refused one alike
        · have repaired := isAccepted_append_letter forgiving inside
          refine ⟨token, rest, rfl, .inr ⟨⟨_, ['a'], rfl, .single repaired⟩, fun other same => ?_⟩⟩
          apply scanTokens_of_error
          rw [scanToken_run inside (by simpa [same] using stop), if_pos failed]
        · rw [not_or, Bool.not_eq_true] at failed
          have accepted : IsAccepted refused token := ⟨⟨failed.1, inside⟩, failed.2⟩
          by_cases dot : rest.head? = some '.'
          · obtain ⟨more, rfl⟩ := List.head?_eq_some_iff.1 dot
            rw [List.append_cons]
            refine (ih more.length (by rw [← n]; simp; omega) more rfl).behind
              (scanTokens_token_dot accepted) ?_
            rintro _ read ⟨rfl, list⟩
            rw [List.append_assoc]
            exact ⟨rfl, .cons accepted list⟩
          · refine ⟨token, rest, rfl, .inl ⟨token, ⟨rfl, .single accepted⟩, fun other same => ?_⟩⟩
            exact scanTokens_of_stop (scanToken_append accepted (by simpa [same] using stop))
              (by simpa [same] using dot)

/-! ## Optional parts -/

theorem scanMarked_append {mark : Char} {part read rest : List Char}
    (h : IsMarked mark (IsDotted (IsAccepted refused)) part read)
    (stop : EndsTokens rest) (unmarked : part = [] → rest.head? ≠ some mark) :
    scanMarked mark refused (read ++ rest) = .ok (part, rest) := by
  obtain ⟨rfl, rfl⟩ | ⟨tokens, rfl⟩ := h
  · cases rest with
    | nil => rfl
    | cons c rest =>
        have differs : c ≠ mark := by simpa using unmarked rfl
        simp [scanMarked, differs]
  · simp [scanMarked, scanTokens_append tokens stop]

theorem reads_scanMarked (mark : Char) (forgiving : ∀ token, refused (token ++ ['a']) = false) :
    Reads (scanMarked mark refused) (IsMarked mark (IsDotted (IsAccepted refused))) where
  possible := ⟨[], [], .inl ⟨rfl, rfl⟩⟩
  stops := by
    intro cs
    by_cases found : cs.head? = some mark
    · obtain ⟨cs, rfl⟩ := List.head?_eq_some_iff.1 found
      have behind_mark : ∀ other, scanMarked mark refused ([mark] ++ other)
          = followedBy (scanTokens refused) (fun tokens rest => .ok (tokens, rest)) other := by
        intro other
        cases list : scanTokens refused other <;> simp [scanMarked, followedBy, list]
      refine ((reads_scanTokens forgiving).stops cs).behind behind_mark ?_
      rintro _ read ⟨rfl, list⟩
      exact .inr ⟨list, rfl⟩
    · refine ⟨[], cs, rfl, .inl ⟨[], .inl ⟨rfl, rfl⟩, fun other same => ?_⟩⟩
      rw [← same] at found
      cases other with
      | nil => rfl
      | cons c other =>
          have differs : c ≠ mark := by simpa using found
          simp [scanMarked, differs]

end Tokens

end SemanticVersion
