import Mathlib.Data.List.TakeWhile
import SemanticVersion.Grammar.Scan

/-!
# Steps that look one character ahead

What the scanner says about a text has to hold for all continuations of the text, and it reads a
text only once.  The reason that this works is a property of its steps: **where a step stops, it has
looked at one more character at most**.  So its outcome stays the same when what is left is replaced
by anything that starts with the same character.

* `ReadsAt`, `FailsAt` — the outcome at a place, whatever follows the character ahead.
* `Stops` — the place where a step stops, and what stands in front of it: a text that was read, or
  one that can still be continued to a text that is read.
* `Reads step spells` — the step reads the texts that spell a value, looking one character ahead.
* `Reads.followedBy` — two such steps, one after the other, are one.
* `exists_run` — every list starts with a maximal run of a class, the place where a step stops.
-/

namespace SemanticVersion

/-! ## Runs of a class -/

section Runs

variable {p : Char → Bool} {run rest : List Char}

/-- A list starts with a run of a class, which ends with the list or in front of a character that is
outside the class. -/
lemma exists_run (p : Char → Bool) (cs : List Char) :
    ∃ run rest, run ++ rest = cs ∧ (∀ c ∈ run, p c = true) ∧ ∀ c ∈ rest.head?, p c = false := by
  refine ⟨cs.takeWhile p, cs.dropWhile p, List.takeWhile_append_dropWhile,
    fun c hc => List.mem_takeWhile_imp hc, fun c hc => ?_⟩
  have outside := List.head?_dropWhile_not p cs
  rw [Option.mem_def.1 hc] at outside
  exact outside

/-- A run ends in front of a character outside the class. -/
lemma head_cons_outside {c : Char} (outside : p c = false) (rest : List Char) :
    ∀ d ∈ (c :: rest).head?, p d = false := by
  rintro d ⟨⟩
  exact outside

/-- The two halves of a list at the end of its first run. -/
lemma takeWhile_dropWhile_run (inside : ∀ c ∈ run, p c = true)
    (stop : ∀ c ∈ rest.head?, p c = false) :
    (run ++ rest).takeWhile p = run ∧ (run ++ rest).dropWhile p = rest := by
  rw [List.takeWhile_append_of_pos inside, List.dropWhile_append_of_pos inside]
  cases rest with
  | nil => simp
  | cons c rest => simp [stop c rfl]

end Runs

/-! ## One character ahead -/

variable {α β : Type}

/-- In front of anything that starts like `rest`, the step reads `front` as the value. -/
def ReadsAt (step : List Char → Step α) (front rest : List Char) (value : α) : Prop :=
  ∀ other : List Char, other.head? = rest.head? → step (front ++ other) = .ok (value, other)

/-- In front of anything that starts like `rest`, the step fails behind `front`. -/
def FailsAt (step : List Char → Step α) (front rest : List Char) : Prop :=
  ∀ other : List Char, other.head? = rest.head? → step (front ++ other) = .error other

/-- The place where the step stops on an input.  What stands in front of it spells the value that was
read, or can be continued to a text that spells some value. -/
def Stops (step : List Char → Step α) (spells : α → List Char → Prop) (cs : List Char) : Prop :=
  ∃ front rest, front ++ rest = cs ∧
    ((∃ value, spells value front ∧ ReadsAt step front rest value) ∨
      (∃ value more, spells value (front ++ more)) ∧ FailsAt step front rest)

/-- A step reads the texts that spell a value, and looks no further than one character ahead. -/
structure Reads (step : List Char → Step α) (spells : α → List Char → Prop) : Prop where
  /-- Some text is read. -/
  possible : ∃ value read, spells value read
  /-- Every input has a place where the step stops. -/
  stops : ∀ cs, Stops step spells cs

namespace Reads

variable {step : List Char → Step α} {spells spells' : α → List Char → Prop}

lemma imp (h : Reads step spells) (weaker : ∀ value read, spells value read → spells' value read) :
    Reads step spells' where
  possible := by
    obtain ⟨value, read, hv⟩ := h.possible
    exact ⟨value, read, weaker value read hv⟩
  stops := by
    intro cs
    obtain ⟨front, rest, split, ⟨value, hv, hr⟩ | ⟨⟨value, more, hv⟩, hf⟩⟩ := h.stops cs
    · exact ⟨front, rest, split, .inl ⟨value, weaker value front hv, hr⟩⟩
    · exact ⟨front, rest, split, .inr ⟨⟨value, more, weaker value _ hv⟩, hf⟩⟩

/-- What was read spells the value and stands in front of what is left. -/
lemma sound (h : Reads step spells) {cs rest : List Char} {value : α}
    (ok : step cs = .ok (value, rest)) : ∃ read, read ++ rest = cs ∧ spells value read := by
  obtain ⟨front, left, rfl, ⟨read, hv, hr⟩ | ⟨-, hf⟩⟩ := h.stops cs
  · rw [hr left rfl] at ok
    obtain ⟨rfl, rfl⟩ := Prod.mk.inj (Except.ok.inj ok)
    exact ⟨front, rfl, hv⟩
  · rw [hf left rfl] at ok
    contradiction

/-- What stands in front of a failure can be continued to a text that is read, and the failure
stays for everything that starts like what is left. -/
lemma of_error (h : Reads step spells) {cs rest : List Char} (error : step cs = .error rest) :
    ∃ front, front ++ rest = cs ∧ (∃ value more, spells value (front ++ more)) ∧
      FailsAt step front rest := by
  obtain ⟨front, left, rfl, ⟨read, hv, hr⟩ | ⟨repair, hf⟩⟩ := h.stops cs
  · rw [hr left rfl] at error
    contradiction
  · rw [hf left rfl] at error
    obtain rfl := Except.error.inj error
    exact ⟨front, rfl, repair, hf⟩

end Reads

/-! ## One step after the other -/

/-- One step, and on what it leaves another one that may depend on what was read. -/
def followedBy (first : List Char → Step α) (second : α → List Char → Step β)
    (cs : List Char) : Step β :=
  match first cs with
  | .error rest => .error rest
  | .ok (value, rest) => second value rest

section FollowedBy

variable {first : List Char → Step α} {second : α → List Char → Step β}

lemma followedBy_ok {cs rest : List Char} {value : α} (h : first cs = .ok (value, rest)) :
    followedBy first second cs = second value rest := by
  simp [followedBy, h]

lemma followedBy_error {cs rest : List Char} (h : first cs = .error rest) :
    followedBy first second cs = .error rest := by
  simp [followedBy, h]

/-- A step that goes on like another one behind a given front stops where the other one does. -/
lemma Stops.behind {next : List Char → Step β} {spells : α → List Char → Prop}
    {spellsNext : β → List Char → Prop} {front cs : List Char} {f : α → β}
    (goes_on : ∀ other, next (front ++ other)
      = followedBy first (fun value rest => .ok (f value, rest)) other)
    (spelled : ∀ value read, spells value read → spellsNext (f value) (front ++ read))
    (h : Stops first spells cs) : Stops next spellsNext (front ++ cs) := by
  obtain ⟨middle, rest, rfl, stops⟩ := h
  refine ⟨front ++ middle, rest, by simp, ?_⟩
  obtain ⟨value, hv, reads⟩ | ⟨⟨value, more, hv⟩, fails⟩ := stops
  · refine .inl ⟨f value, spelled value middle hv, fun other same => ?_⟩
    rw [List.append_assoc, goes_on, followedBy_ok (reads other same)]
  · refine .inr ⟨⟨f value, more, ?_⟩, fun other same => ?_⟩
    · rw [List.append_assoc]
      exact spelled value (middle ++ more) hv
    · rw [List.append_assoc, goes_on, followedBy_error (fails other same)]

/-- **Looking one character ahead is kept by sequence.**  The character ahead of the first step is
the front of what the second one reads or, when that reads nothing, the character ahead of it. -/
theorem Reads.followedBy {spells : α → List Char → Prop} {spellsNext : α → β → List Char → Prop}
    (hf : Reads first spells) (hs : ∀ a, Reads (second a) (spellsNext a)) :
    Reads (followedBy first second) fun b read =>
      ∃ a front back, spells a front ∧ spellsNext a b back ∧ front ++ back = read where
  possible := by
    obtain ⟨a, front, ha⟩ := hf.possible
    obtain ⟨b, back, hb⟩ := (hs a).possible
    exact ⟨b, _, a, front, back, ha, hb, rfl⟩
  stops := by
    intro cs
    obtain ⟨front, rest, rfl, ⟨a, ha, reads⟩ | ⟨⟨a, more, ha⟩, fails⟩⟩ := hf.stops cs
    · obtain ⟨middle, rest, rfl, second_stops⟩ := (hs a).stops rest
      have reads_middle : ∀ other : List Char, other.head? = rest.head? →
          first (front ++ middle ++ other) = .ok (a, middle ++ other) := by
        intro other same
        rw [List.append_assoc]
        exact reads _ (by simp [List.head?_append, same])
      refine ⟨front ++ middle, rest, by simp, ?_⟩
      obtain ⟨b, hb, reads'⟩ | ⟨⟨b, more, hb⟩, fails⟩ := second_stops
      · refine .inl ⟨b, ⟨a, front, middle, ha, hb, rfl⟩, fun other same => ?_⟩
        rw [followedBy_ok (reads_middle other same), reads' other same]
      · refine .inr ⟨⟨b, more, a, front, middle ++ more, ha, hb, by simp⟩, fun other same => ?_⟩
        rw [followedBy_ok (reads_middle other same), fails other same]
    · obtain ⟨b, back, hb⟩ := (hs a).possible
      exact ⟨front, rest, rfl, .inr ⟨⟨b, more ++ back, a, front ++ more, back, ha, hb, by simp⟩,
        fun other same => followedBy_error (fails other same)⟩⟩

end FollowedBy

end SemanticVersion
