import Mathlib.Tactic.Common
import SemanticVersion.Grammar.Pattern

/-!
# What a regular expression matches

The meaning of an expression is an ordered list of cursors.  To know which cursors are in the list,
the order does not matter, and what an expression reads can be said without any search: an
expression spells a text in front of a rest, and keeps some groups on the way.

* `Pattern.Spells` — the texts that an expression spells, with the groups that it keeps.
* `Cursor.Moves` — one cursor stands behind another one with a text and some groups between them.
* `mem_ends_iff` — the ends of an expression are the cursors behind the texts that it spells.
* `Pattern.Denotes` — an expression without groups that spells the members of a language wherever it
  stands, with one lemma for each way to put expressions together.
-/

namespace SemanticVersion

/-- Groups that were kept, the last one first. -/
abbrev Groups := List (Identifier × String)

/-! ## Texts and groups -/

/-- Rounds that read something each, one after the other.  The groups of later rounds come first. -/
inductive Rounds (round : List Char → List Char → Groups → Prop) :
    List Char → List Char → Groups → Prop where
  | done (rest : List Char) : Rounds round [] rest []
  | more {front back rest : List Char} {groups later : Groups} (nonempty : front ≠ [])
      (first : round front (back ++ rest) groups) (others : Rounds round back rest later) :
      Rounds round (front ++ back) rest (later ++ groups)

/-- The expression spells the text in front of the rest and keeps the groups. -/
def Pattern.Spells : Pattern → List Char → List Char → Groups → Prop
  | .empty, read, _, groups => read = [] ∧ groups = []
  | .one accepts, read, _, groups => (∃ c, accepts c = true ∧ read = [c]) ∧ groups = []
  | .sequence first second, read, rest, groups =>
    ∃ front back kept later, first.Spells front (back ++ rest) kept ∧
      second.Spells back rest later ∧ front ++ back = read ∧ later ++ kept = groups
  | .choice preferred other, read, rest, groups =>
    preferred.Spells read rest groups ∨ other.Spells read rest groups
  | .many round, read, rest, groups => Rounds round.Spells read rest groups
  | .group identifier inner, read, rest, groups =>
    ∃ kept, inner.Spells read rest kept ∧ (identifier, String.ofList read) :: kept = groups
  | .atEnd, read, rest, groups => read = [] ∧ (rest = [] ∨ rest = ['\n']) ∧ groups = []

/-- The second cursor stands behind the first one, with the text and the groups between them. -/
structure Cursor.Moves (cursor : Cursor) (read : List Char) (groups : Groups) (next : Cursor) :
    Prop where
  rest : read ++ next.rest = cursor.rest
  position : next.position = cursor.position + read.length
  groups : next.groups = groups ++ cursor.groups

namespace Cursor.Moves

variable {cursor middle next : Cursor} {front back : List Char} {kept later : Groups}

lemma refl (cursor : Cursor) : cursor.Moves [] [] cursor := ⟨rfl, rfl, rfl⟩

/-- A cursor is known from where it came. -/
lemma eq_mk (h : cursor.Moves front kept next) :
    next = ⟨cursor.position + front.length, next.rest, kept ++ cursor.groups⟩ := by
  rw [← h.position, ← h.groups]

lemma eq_self (h : cursor.Moves [] [] next) : next = cursor := by
  have rest : next.rest = cursor.rest := h.rest
  rw [h.eq_mk, rest]
  rfl

lemma trans (h : cursor.Moves front kept middle) (h' : middle.Moves back later next) :
    cursor.Moves (front ++ back) (later ++ kept) next where
  rest := by rw [List.append_assoc, h'.rest, h.rest]
  position := by rw [h'.position, h.position, List.length_append, Nat.add_assoc]
  groups := by rw [h'.groups, h.groups, List.append_assoc]

/-- Between two cursors there is one at every place of the text between them. -/
lemma split (h : cursor.Moves (front ++ back) (later ++ kept) next) :
    ∃ middle : Cursor, middle.rest = back ++ next.rest ∧ cursor.Moves front kept middle ∧
      middle.Moves back later next := by
  refine ⟨⟨cursor.position + front.length, back ++ next.rest, kept ++ cursor.groups⟩, rfl,
    ⟨?_, rfl, rfl⟩, ⟨rfl, ?_, ?_⟩⟩
  · rw [← List.append_assoc, h.rest]
  · rw [h.position, List.length_append, Nat.add_assoc]
  · rw [h.groups, List.append_assoc]

/-- The text between two cursors, as a group keeps it. -/
lemma take_rest (h : cursor.Moves front kept next) :
    cursor.rest.take (next.position - cursor.position) = front := by
  rw [h.position, ← h.rest, Nat.add_sub_cancel_left, List.take_left]

/-- A text that was read leaves less. -/
lemma shorter_iff (h : cursor.Moves front kept middle) :
    middle.rest.length < cursor.rest.length ↔ front ≠ [] := by
  rw [← h.rest, List.length_append, ← List.length_pos_iff]
  omega

end Cursor.Moves

/-! ## The ends of an expression -/

/-- The cursors that a function finds are those behind the texts that are spelled. -/
def Finds (ends : Cursor → List Cursor) (spells : List Char → List Char → Groups → Prop) : Prop :=
  ∀ cursor next, next ∈ ends cursor ↔
    ∃ read groups, spells read next.rest groups ∧ cursor.Moves read groups next

/-- The repetition finds the cursors behind any number of rounds. -/
lemma finds_manyEnds {round : Cursor → List Cursor}
    {spells : List Char → List Char → Groups → Prop} (h : Finds round spells) :
    Finds (manyEnds round) (Rounds spells) := by
  intro cursor next
  -- on what is left, because a round may read any number of characters
  induction n : cursor.rest.length using Nat.strongRecOn generalizing cursor with
  | ind n ih =>
      rw [manyEnds, List.mem_append, List.mem_flatMap, List.mem_singleton]
      constructor
      · rintro (⟨middle, first, others⟩ | rfl)
        · obtain ⟨front, kept, spelled, moves⟩ := (h cursor middle).1 first
          by_cases shorter : middle.rest.length < cursor.rest.length
          · rw [if_pos shorter] at others
            obtain ⟨back, later, rounds, moves'⟩ := (ih _ (n ▸ shorter) middle rfl).1 others
            rw [← moves'.rest] at spelled
            exact ⟨_, _, .more (moves.shorter_iff.1 shorter) spelled rounds, moves.trans moves'⟩
          · rw [if_neg shorter] at others
            contradiction
        · exact ⟨[], [], .done _, .refl _⟩
      · rintro ⟨read, groups, rounds, moves⟩
        cases rounds with
        | done => exact .inr moves.eq_self
        | more nonempty first others =>
            obtain ⟨middle, rest, moves, moves'⟩ := moves.split
            have shorter := moves.shorter_iff.2 nonempty
            rw [← rest] at first
            refine .inl ⟨middle, (h cursor middle).2 ⟨_, _, first, moves⟩, ?_⟩
            rw [if_pos shorter]
            exact (ih _ (n ▸ shorter) middle rfl).2 ⟨_, _, others, moves'⟩

/-- **The ends of an expression are the cursors behind the texts that it spells.** -/
theorem finds_ends (pattern : Pattern) : Finds pattern.ends pattern.Spells := by
  induction pattern with
  | empty =>
      intro cursor next
      simp only [Pattern.ends, List.mem_singleton, Pattern.Spells]
      constructor
      · rintro rfl
        exact ⟨[], [], ⟨rfl, rfl⟩, .refl _⟩
      · rintro ⟨_, _, ⟨rfl, rfl⟩, moves⟩
        exact moves.eq_self
  | one accepts =>
      intro cursor next
      constructor
      · intro found
        cases rest : cursor.rest with
        | nil => simp [Pattern.ends, rest] at found
        | cons c left =>
            by_cases accepted : accepts c = true
            · obtain rfl : next = ⟨cursor.position + 1, left, cursor.groups⟩ := by
                simpa [Pattern.ends, rest, accepted] using found
              exact ⟨[c], [], ⟨⟨c, accepted, rfl⟩, rfl⟩, rest.symm, rfl, rfl⟩
            · simp [Pattern.ends, rest, accepted] at found
      · rintro ⟨_, _, ⟨⟨c, accepted, rfl⟩, rfl⟩, moves⟩
        have rest : cursor.rest = c :: next.rest := moves.rest.symm
        rw [Pattern.ends, rest, moves.eq_mk]
        simp [accepted]
  | sequence first second ih₁ ih₂ =>
      intro cursor next
      simp only [Pattern.ends, List.mem_flatMap, Pattern.Spells]
      constructor
      · rintro ⟨middle, found, found'⟩
        obtain ⟨front, kept, spelled, moves⟩ := (ih₁ cursor middle).1 found
        obtain ⟨back, later, spelled', moves'⟩ := (ih₂ middle next).1 found'
        rw [← moves'.rest] at spelled
        exact ⟨_, _, ⟨front, back, kept, later, spelled, spelled', rfl, rfl⟩, moves.trans moves'⟩
      · rintro ⟨_, _, ⟨front, back, kept, later, spelled, spelled', rfl, rfl⟩, moves⟩
        obtain ⟨middle, rest, moves, moves'⟩ := moves.split
        rw [← rest] at spelled
        exact ⟨middle, (ih₁ cursor middle).2 ⟨front, kept, spelled, moves⟩,
          (ih₂ middle next).2 ⟨back, later, spelled', moves'⟩⟩
  | choice preferred other ih₁ ih₂ =>
      intro cursor next
      simp only [Pattern.ends, List.mem_append, Pattern.Spells, ih₁ cursor next, ih₂ cursor next,
        or_and_right, exists_or]
  | many round ih => exact finds_manyEnds ih
  | group identifier inner ih =>
      intro cursor next
      simp only [Pattern.ends, List.mem_map, Pattern.Spells]
      constructor
      · rintro ⟨inside, found, rfl⟩
        obtain ⟨read, kept, spelled, moves⟩ := (ih cursor inside).1 found
        rw [moves.take_rest]
        exact ⟨read, _, ⟨kept, spelled, rfl⟩, moves.rest, moves.position, by rw [moves.groups]; rfl⟩
      · rintro ⟨read, _, ⟨kept, spelled, rfl⟩, moves⟩
        have inside : cursor.Moves read kept ⟨next.position, next.rest, kept ++ cursor.groups⟩ :=
          ⟨moves.rest, moves.position, rfl⟩
        refine ⟨⟨next.position, next.rest, kept ++ cursor.groups⟩,
          (ih cursor _).2 ⟨read, kept, spelled, inside⟩, ?_⟩
        rw [inside.take_rest, ← List.cons_append, ← moves.groups]
  | atEnd =>
      intro cursor next
      constructor
      · intro found
        by_cases at_end : cursor.rest = [] ∨ cursor.rest = ['\n']
        · obtain rfl : next = cursor := by simpa [Pattern.ends, at_end] using found
          exact ⟨[], [], ⟨rfl, at_end, rfl⟩, .refl _⟩
        · simp [Pattern.ends, at_end] at found
      · rintro ⟨_, _, ⟨rfl, at_end, rfl⟩, moves⟩
        obtain rfl := moves.eq_self
        simp [Pattern.ends, at_end]

/-! ## Expressions without groups -/

/-- The expression keeps no groups and spells the members of the language, whatever follows. -/
def Pattern.Denotes (pattern : Pattern) (language : List Char → Prop) : Prop :=
  ∀ read rest groups, pattern.Spells read rest groups ↔ language read ∧ groups = []

namespace Pattern.Denotes

variable {first second round pattern : Pattern} {language other : List Char → Prop}

lemma congr (h : pattern.Denotes language) (same : ∀ cs, language cs ↔ other cs) :
    pattern.Denotes other := by
  intro read rest groups
  rw [h read rest groups, same]

lemma empty : Pattern.empty.Denotes (· = []) := fun _ _ _ => Iff.rfl

lemma one (accepts : Char → Bool) :
    (Pattern.one accepts).Denotes fun cs => ∃ c, accepts c = true ∧ cs = [c] :=
  fun _ _ _ => Iff.rfl

lemma choice (h : first.Denotes language) (h' : second.Denotes other) :
    (Pattern.choice first second).Denotes fun cs => language cs ∨ other cs := by
  intro read rest groups
  rw [Pattern.Spells, h read rest groups, h' read rest groups, or_and_right]

lemma sequence (h : first.Denotes language) (h' : second.Denotes other) :
    (Pattern.sequence first second).Denotes fun cs =>
      ∃ front back, language front ∧ other back ∧ front ++ back = cs := by
  intro read rest groups
  rw [Pattern.Spells]
  constructor
  · rintro ⟨front, back, kept, later, spelled, spelled', rfl, rfl⟩
    obtain ⟨member, rfl⟩ := (h _ _ _).1 spelled
    obtain ⟨member', rfl⟩ := (h' _ _ _).1 spelled'
    exact ⟨⟨front, back, member, member', rfl⟩, rfl⟩
  · rintro ⟨⟨front, back, member, member', rfl⟩, rfl⟩
    exact ⟨front, back, [], [], (h _ _ _).2 ⟨member, rfl⟩, (h' _ _ _).2 ⟨member', rfl⟩, rfl, rfl⟩

/-- A repetition spells what some rounds spell together, each of which reads something. -/
lemma many (h : round.Denotes language) :
    (Pattern.many round).Denotes fun cs =>
      ∃ parts : List (List Char), (∀ part ∈ parts, part ≠ [] ∧ language part) ∧
        parts.flatten = cs := by
  intro read rest groups
  rw [Pattern.Spells]
  constructor
  · intro rounds
    induction rounds with
    | done rest => exact ⟨⟨[], nofun, rfl⟩, rfl⟩
    | more nonempty spelled _ ih =>
        obtain ⟨member, rfl⟩ := (h _ _ _).1 spelled
        obtain ⟨⟨parts, members, rfl⟩, rfl⟩ := ih
        exact ⟨⟨_ :: parts, List.forall_mem_cons.2 ⟨⟨nonempty, member⟩, members⟩, rfl⟩, rfl⟩
  · rintro ⟨⟨parts, members, rfl⟩, rfl⟩
    induction parts with
    | nil => exact .done rest
    | cons part parts ih =>
        obtain ⟨⟨nonempty, member⟩, members⟩ := List.forall_mem_cons.1 members
        exact .more nonempty ((h _ _ _).2 ⟨member, rfl⟩) (ih members)

/-- A repetition of single characters spells the runs of their class. -/
lemma many_one (accepts : Char → Bool) :
    (Pattern.many (.one accepts)).Denotes fun cs => ∀ c ∈ cs, accepts c = true := by
  refine (one accepts).many.congr fun cs => ⟨?_, fun inside => ?_⟩
  · rintro ⟨parts, members, rfl⟩ c hc
    obtain ⟨part, hp, hc⟩ := List.mem_flatten.1 hc
    obtain ⟨-, d, accepted, rfl⟩ := members part hp
    rwa [List.mem_singleton.1 hc]
  · refine ⟨cs.map ([·]), ?_, List.flatMap_singleton' cs⟩
    intro part hp
    obtain ⟨c, hc, rfl⟩ := List.mem_map.1 hp
    exact ⟨by simp, c, inside c hc, rfl⟩

end Pattern.Denotes

end SemanticVersion
