/-!
# Control sequences

A control sequence steers a terminal: an escape character and an opening bracket, then any number of
digits, semicolons and question marks, and one ASCII letter.  Messages repeat what was typed, and a
message that does not go to a terminal has no use for such a sequence, so it is left out.

* `controlLength` — the length of the control sequence that a text starts with.
* `withoutControls` — a text without its control sequences.
* `withoutControls_eq_self` — a text without an escape character is kept as it is.

**Only whole sequences are left out.**  What looks like the start of one and goes on otherwise is
kept, the escape character included.
-/

namespace SemanticVersion

/-- The character that every control sequence starts with. -/
def escape : Char := '\x1b'

/-- Whether the character may stand between the bracket and the letter of a control sequence. -/
def isControlParameter (c : Char) : Bool :=
  c.isDigit || c == ';' || c == '?'

/-- The length of the control sequence at the front, and zero when there is none. -/
def controlLength : List Char → Nat
  | first :: '[' :: rest =>
    match rest.dropWhile isControlParameter with
    | last :: _ =>
      if first == escape && last.isAlpha then (rest.takeWhile isControlParameter).length + 3 else 0
    | [] => 0
  | _ => 0

/-- The characters that belong to no control sequence.  `left` is how many characters of the
sequence at hand are still to come. -/
def dropControls : (left : Nat) → List Char → List Char
  | _, [] => []
  | left + 1, _ :: rest => dropControls left rest
  | 0, c :: rest =>
    match controlLength (c :: rest) with
    | 0 => c :: dropControls 0 rest
    | left + 1 => dropControls left rest

/-- A text without its control sequences. -/
def withoutControls (text : String) : String :=
  String.ofList (dropControls 0 text.toList)

/-- A control sequence starts with an escape character. -/
theorem controlLength_of_ne_escape {c : Char} (h : c ≠ escape) (rest : List Char) :
    controlLength (c :: rest) = 0 := by
  unfold controlLength
  split
  · next heq =>
    obtain ⟨rfl, -⟩ := List.cons.inj heq
    split <;> simp [h]
  · rfl

/-- Characters without an escape character among them are kept. -/
theorem dropControls_eq_self {cs : List Char} (h : escape ∉ cs) : dropControls 0 cs = cs := by
  induction cs with
  | nil => rfl
  | cons c rest ih =>
    rw [List.mem_cons, not_or] at h
    rw [dropControls, controlLength_of_ne_escape (Ne.symm h.1)]
    exact congrArg (c :: ·) (ih h.2)

/-- A text without an escape character is kept. -/
theorem withoutControls_eq_self {text : String} (h : escape ∉ text.toList) :
    withoutControls text = text := by
  rw [withoutControls, dropControls_eq_self h, String.ofList_toList]

end SemanticVersion
