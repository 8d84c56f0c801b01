import Mathlib.Tactic.Common
import SemanticVersion.Grammar

/-!
# The languages, taken apart

The predicates of the grammar speak about whole lists of characters.  A recogniser sees a list from
its front, so this file says what a member of each language looks like from there.

* `isNumber_iff` — a number by its first digit.
* `IsDotted.single`, `IsDotted.cons`, `IsDotted.induct` — a dotted list by its first token.
* `IsMarked` — what is read for an optional part: nothing, or the mark and the part.
* `Components.SpelledBy` — what is read for all parts of a version text, with
  `Components.spelledBy_iff`: read are exactly the texts of well-formed parts.
-/

namespace SemanticVersion

/-! ## Numbers and tokens -/

lemma isTokenChar_of_isDigit {c : Char} (h : c.isDigit = true) : isTokenChar c = true := by
  simp [isTokenChar, Char.isAlphanum, h]

lemma isNumeral_iff {cs : List Char} :
    isNumeral cs = true ↔ cs ≠ [] ∧ ∀ c ∈ cs, c.isDigit = true := by
  rw [isNumeral, Bool.and_eq_true, Bool.not_eq_true', List.isEmpty_eq_false_iff, List.all_eq_true]

/-- Padded are the runs of digits in which something stands behind a leading zero. -/
lemma isPadded_cons_iff {c : Char} {rest : List Char} :
    isPadded (c :: rest) = true
      ↔ c = '0' ∧ rest ≠ [] ∧ ∀ d ∈ rest, d.isDigit = true := by
  simp only [isPadded, isNumeral]
  constructor
  · intro h
    simp only [List.isEmpty_cons, Bool.not_false, List.all_cons, Bool.true_and, List.head?_cons,
      Bool.and_eq_true, List.all_eq_true, beq_iff_eq, Option.some.injEq, List.length_cons,
      decide_eq_true_eq] at h
    obtain ⟨⟨⟨_, digits⟩, zero⟩, long⟩ := h
    refine ⟨zero, ?_, digits⟩
    rintro rfl
    simp at long
  · rintro ⟨rfl, nonempty, digits⟩
    simp only [List.isEmpty_cons, Bool.not_false, Bool.true_and, List.all_cons, List.head?_cons,
      Bool.and_eq_true, List.all_eq_true, beq_iff_eq, List.length_cons, decide_eq_true_eq]
    exact ⟨⟨⟨by decide, digits⟩, trivial⟩, by simpa [List.length_pos_iff] using nonempty⟩

/-- A letter behind a run of digits takes away its padding. -/
lemma isPadded_append_letter (cs : List Char) : isPadded (cs ++ ['a']) = false := by
  simp [isPadded, isNumeral]

/-- A number is zero, or a run of digits that starts with another digit. -/
lemma isNumber_iff {cs : List Char} :
    IsNumber cs ↔ cs = ['0'] ∨
      ∃ c run, cs = c :: run ∧ c.isDigit = true ∧ c ≠ '0' ∧ ∀ d ∈ run, d.isDigit = true := by
  cases cs with
  | nil => simp [IsNumber, isNumeral]
  | cons c run =>
      have padded : isPadded (c :: run) = true ↔ _ := isPadded_cons_iff
      simp only [IsNumber, isNumeral, List.isEmpty_cons, Bool.not_false, List.all_cons,
        Bool.true_and, Bool.and_eq_true, List.all_eq_true, List.cons.injEq]
      by_cases zero : c = '0'
      · subst zero
        grind
      · grind

lemma isNumber_zero : IsNumber ['0'] := isNumber_iff.2 (.inl rfl)

/-! ## Dotted lists -/

lemma IsDotted.single {language : List Char → Prop} {token : List Char} (h : language token) :
    IsDotted language token :=
  ⟨[token], by simp, by simpa using h, by simp [List.intercalate]⟩

lemma IsDotted.cons {language : List Char → Prop} {token more : List Char} (h : language token)
    (hm : IsDotted language more) : IsDotted language (token ++ '.' :: more) := by
  obtain ⟨tokens, nonempty, members, rfl⟩ := hm
  obtain ⟨next, tokens, rfl⟩ := List.exists_cons_of_ne_nil nonempty
  exact ⟨token :: next :: tokens, by simp, List.forall_mem_cons.2 ⟨h, members⟩,
    by simp [List.intercalate]⟩

/-- Dotted lists grow from the back: what holds of every token, and goes on to hold when a token
and a dot are put in front, holds of every dotted list. -/
@[elab_as_elim]
theorem IsDotted.induct {language : List Char → Prop}
    {motive : (cs : List Char) → IsDotted language cs → Prop}
    (single : ∀ token (h : language token), motive token (.single h))
    (cons : ∀ token more (h : language token) (hm : IsDotted language more), motive more hm →
      motive (token ++ '.' :: more) (.cons h hm))
    {cs : List Char} (h : IsDotted language cs) : motive cs h := by
  obtain ⟨tokens, nonempty, members, rfl⟩ := h
  induction tokens with
  | nil => contradiction
  | cons token tokens ih =>
      cases tokens with
      | nil => simpa [List.intercalate] using single token (members token (by simp))
      | cons next tokens =>
          have others : ∀ t ∈ next :: tokens, language t :=
            fun t ht => members t (List.mem_cons_of_mem _ ht)
          have step := cons token _ (members token (by simp)) ⟨_, by simp, others, rfl⟩
            (ih (by simp) others)
          simpa [List.intercalate] using step

/-- The empty list is no dotted list of tokens. -/
lemma IsDotted.ne_nil {language : List Char → Prop} (nonempty : ∀ token, language token → token ≠ [])
    {cs : List Char} (h : IsDotted language cs) : cs ≠ [] := by
  induction h using IsDotted.induct with
  | single token member => exact nonempty token member
  | cons token more _ _ _ => simp

/-- Between the characters of the tokens a dotted list has dots only. -/
lemma IsDotted.forall_mem {language : List Char → Prop} {inside : Char → Prop}
    (tokens : ∀ token, language token → ∀ c ∈ token, inside c) {cs : List Char}
    (h : IsDotted language cs) : ∀ c ∈ cs, inside c ∨ c = '.' := by
  induction h using IsDotted.induct with
  | single token member => exact fun c hc => .inl (tokens token member c hc)
  | cons token more member _ ih =>
      intro c hc
      rcases List.mem_append.1 hc with hc | hc
      · exact .inl (tokens token member c hc)
      · rcases List.mem_cons.1 hc with rfl | hc
        · exact .inr rfl
        · exact ih c hc

lemma IsPrerelease.ne_nil {cs : List Char} (h : IsPrerelease cs) : cs ≠ [] :=
  IsDotted.ne_nil (fun _ token => token.1.1) h

lemma IsMetadata.ne_nil {cs : List Char} (h : IsMetadata cs) : cs ≠ [] :=
  IsDotted.ne_nil (fun _ token => token.1) h

/-! ## Optional parts -/

/-- What is read for an optional part: nothing for the empty part, and the mark and the part for a
member of the language. -/
def IsMarked (mark : Char) (language : List Char → Prop) (part read : List Char) : Prop :=
  part = [] ∧ read = [] ∨ language part ∧ read = mark :: part

/-- What is read for an optional part starts with its mark, if with anything. -/
lemma IsMarked.head {mark : Char} {language : List Char → Prop} {part read : List Char}
    (h : IsMarked mark language part read) : ∀ c ∈ read.head?, c = mark := by
  obtain ⟨_, rfl⟩ | ⟨_, rfl⟩ := h
  · exact nofun
  · rintro c ⟨⟩
    rfl

lemma IsMarked.forall_mem {mark : Char} {language : List Char → Prop} {part read : List Char}
    {inside : Char → Prop} (h : IsMarked mark language part read)
    (members : ∀ cs, language cs → ∀ c ∈ cs, inside c) : ∀ c ∈ read, c = mark ∨ inside c := by
  obtain ⟨_, rfl⟩ | ⟨member, rfl⟩ := h
  · exact nofun
  · intro c hc
    exact (List.mem_cons.1 hc).imp_right (members part member c)

/-- What is read for an optional part is the part behind its mark. -/
lemma isMarked_iff {mark : Char} {language : List Char → Prop} {part : String} {read : List Char}
    (nonempty : ∀ cs, language cs → cs ≠ []) :
    IsMarked mark language part.toList read
      ↔ (part = "" ∨ language part.toList) ∧
          (marked (String.singleton mark) part).toList = read := by
  by_cases empty : part = ""
  · subst empty
    have outside : ¬ language [] := fun h => nonempty [] h rfl
    have absent : (marked (String.singleton mark) "").toList = [] := by simp [marked]
    rw [absent]
    simp only [IsMarked, String.toList_empty, outside, false_and, or_false, true_and]
    exact eq_comm
  · have present : (marked (String.singleton mark) part).toList = mark :: part.toList := by
      simp [marked, empty]
    rw [present]
    simp only [IsMarked, String.toList_eq_nil_iff, empty, false_and, false_or]
    exact and_congr_right fun _ => eq_comm

/-! ## Version texts -/

namespace Components

/-- The parts as they were read. -/
def ofLists (major minor patch prerelease metadata : List Char) : Components where
  major := String.ofList major
  minor := String.ofList minor
  patch := String.ofList patch
  prerelease := String.ofList prerelease
  metadata := String.ofList metadata

/-- What is read for all parts of a version text, one after the other. -/
def SpelledBy (parts : Components) (read : List Char) : Prop :=
  ∃ dashed plussed,
    IsNumber parts.major.toList ∧ IsNumber parts.minor.toList ∧ IsNumber parts.patch.toList ∧
    IsMarked '-' IsPrerelease parts.prerelease.toList dashed ∧
    IsMarked '+' IsMetadata parts.metadata.toList plussed ∧
    parts.major.toList ++ '.' :: (parts.minor.toList ++ '.' :: (parts.patch.toList ++
      (dashed ++ plussed))) = read

/-- Read are exactly the texts of well-formed parts. -/
theorem spelledBy_iff {parts : Components} {read : List Char} :
    parts.SpelledBy read ↔ parts.WellFormed ∧ parts.text.toList = read := by
  have prerelease : ∀ dashed, IsMarked '-' IsPrerelease parts.prerelease.toList dashed ↔ _ :=
    fun dashed => isMarked_iff fun _ list => list.ne_nil
  have metadata : ∀ plussed, IsMarked '+' IsMetadata parts.metadata.toList plussed ↔ _ :=
    fun plussed => isMarked_iff fun _ list => list.ne_nil
  constructor
  · rintro ⟨dashed, plussed, hM, hm, hp, hdashed, hplussed, rfl⟩
    obtain ⟨hpre, rfl⟩ := (prerelease dashed).1 hdashed
    obtain ⟨hmeta, rfl⟩ := (metadata plussed).1 hplussed
    exact ⟨⟨hM, hm, hp, hpre, hmeta⟩, by simp [text]⟩
  · rintro ⟨h, rfl⟩
    exact ⟨_, _, h.major, h.minor, h.patch, (prerelease _).2 ⟨h.prerelease, rfl⟩,
      (metadata _).2 ⟨h.metadata, rfl⟩, by simp [text]⟩

/-- Besides the characters of tokens there are dots and plus signs in a version text. -/
theorem SpelledBy.forall_mem {parts : Components} {read : List Char} (h : parts.SpelledBy read) :
    ∀ c ∈ read, isTokenChar c = true ∨ c = '.' ∨ c = '+' := by
  have number : ∀ {cs : List Char}, IsNumber cs → ∀ c ∈ cs, isTokenChar c = true := by
    rintro cs ⟨numeral, -⟩ c hc
    exact isTokenChar_of_isDigit ((isNumeral_iff.1 numeral).2 c hc)
  have prerelease : ∀ cs, IsPrerelease cs → ∀ c ∈ cs, isTokenChar c = true ∨ c = '.' :=
    fun cs list => list.forall_mem fun token member => member.1.2
  have metadata : ∀ cs, IsMetadata cs → ∀ c ∈ cs, isTokenChar c = true ∨ c = '.' :=
    fun cs list => list.forall_mem fun token member => member.2
  obtain ⟨dashed, plussed, major, minor, patch, hyphen, plus, rfl⟩ := h
  intro c hc
  simp only [List.mem_append, List.mem_cons] at hc
  rcases hc with hc | rfl | hc | rfl | hc | hc | hc
  · exact .inl (number major c hc)
  · exact .inr (.inl rfl)
  · exact .inl (number minor c hc)
  · exact .inr (.inl rfl)
  · exact .inl (number patch c hc)
  · rcases hyphen.forall_mem prerelease c hc with rfl | inside | rfl
    · exact .inl (by decide)
    · exact .inl inside
    · exact .inr (.inl rfl)
  · rcases plus.forall_mem metadata c hc with rfl | inside | rfl
    · exact .inr (.inr rfl)
    · exact .inl inside
    · exact .inr (.inl rfl)

end Components

end SemanticVersion
