import SemanticVersion.Grammar

/-!
# Scanning a version text

The scanner walks over a text once, from left to right, and never goes back.  Besides accepting or
rejecting the text it tells apart a text that merely stops too early (`1.0`, `1.0.0-`) from one that
no continuation can save (`1.01.0`).

Every step takes the characters that are left.  When it succeeds it gives what it read and what is
left then; when it fails it gives what was left at the point of failure.  **Running out of input is
never fatal**, because the text may still be continued: a failure with nothing left is `unfinished`,
and any other failure is `mismatched`.

* `scan` — the result for a text, as a `Scan`.
* `isViable`, `isVersion` — the two questions that are asked about a text.
* `scanNumber`, `scanToken`, `scanTokens`, `scanComponents` — the steps.
-/

namespace SemanticVersion

/-! ## Results -/

/-- How a text relates to the grammar. -/
inductive MatchState where
  /-- The text is a version. -/
  | matched
  /-- The text is no version, but a continuation of it is. -/
  | unfinished
  /-- No continuation of the text is a version. -/
  | mismatched
deriving DecidableEq, Repr

/-- The name under which a state is reported. -/
def MatchState.name : MatchState → String
  | .matched => "match"
  | .unfinished => "partial"
  | .mismatched => "mismatch"

/-- What scanning a text gives. -/
structure Scan where
  /-- How the text relates to the grammar. -/
  state : MatchState
  /-- Where scanning stopped.  For a mismatch this is the index of the offending character. -/
  position : Nat
  /-- The parts of the text, when it is a version. -/
  components : Option Components
deriving DecidableEq, Repr

/-! ## Steps -/

/-- A step of the scanner gives what it read with the rest of the input, or fails with the input
that was left where it failed. -/
abbrev Step (α : Type) := Except (List Char) (α × List Char)

/-- Reads a number.  After a leading zero the number is over, whatever follows. -/
def scanNumber : List Char → Step (List Char)
  | [] => .error []
  | c :: rest =>
    if c = '0' then .ok (['0'], rest)
    else if c.isDigit then .ok (c :: rest.takeWhile Char.isDigit, rest.dropWhile Char.isDigit)
    else .error (c :: rest)

/-- Reads one given character. -/
def scanChar (expected : Char) : List Char → Step Unit
  | [] => .error []
  | c :: rest => if c = expected then .ok ((), rest) else .error (c :: rest)

/-- Reads a token that is not refused.  A refused token fails behind its last character: as long as
the input may be continued, a padded number such as `00` may still become the token `00a`. -/
def scanToken (refused : List Char → Bool) (cs : List Char) : Step (List Char) :=
  let token := cs.takeWhile isTokenChar
  let rest := cs.dropWhile isTokenChar
  if token.isEmpty then .error cs
  else if refused token then .error rest
  else .ok (token, rest)

/-- A token and what is left after it make up the input. -/
theorem append_of_scanToken {refused : List Char → Bool} {cs token rest : List Char}
    (h : scanToken refused cs = .ok (token, rest)) : token ++ rest = cs := by
  simp only [scanToken] at h
  split at h
  · contradiction
  · split at h
    · contradiction
    · obtain ⟨rfl, rfl⟩ := Prod.mk.injEq .. ▸ Except.ok.inj h
      exact List.takeWhile_append_dropWhile

/-- Reads tokens joined by dots, at least one, and gives them with their dots. -/
def scanTokens (refused : List Char → Bool) (cs : List Char) : Step (List Char) :=
  match h : scanToken refused cs with
  | .error rest => .error rest
  | .ok (token, '.' :: more) =>
    have : more.length < cs.length := by
      rw [← append_of_scanToken h]
      simp
      omega
    match scanTokens refused more with
    | .error rest => .error rest
    | .ok (tokens, rest) => .ok (token ++ '.' :: tokens, rest)
  | .ok (token, rest) => .ok (token, rest)
termination_by cs.length

/-- Reads tokens behind a mark, and nothing when the mark is not there. -/
def scanMarked (mark : Char) (refused : List Char → Bool) : List Char → Step (List Char)
  | [] => .ok ([], [])
  | c :: rest => if c = mark then scanTokens refused rest else .ok ([], c :: rest)

/-- Reads a whole version text.  What is left behind it is a failure. -/
def scanComponents (cs : List Char) : Except (List Char) (Components × List Char) := do
  let (major, cs) ← scanNumber cs
  let (_, cs) ← scanChar '.' cs
  let (minor, cs) ← scanNumber cs
  let (_, cs) ← scanChar '.' cs
  let (patch, cs) ← scanNumber cs
  let (prerelease, cs) ← scanMarked '-' isPadded cs
  let (metadata, cs) ← scanMarked '+' (fun _ => false) cs
  if cs.isEmpty then
    let components : Components := {
      major := String.ofList major
      minor := String.ofList minor
      patch := String.ofList patch
      prerelease := String.ofList prerelease
      metadata := String.ofList metadata }
    return (components, cs)
  else throw cs

/-! ## Texts -/

/-- The result that a failure with this much input left stands for. -/
def Scan.ofFailure (length : Nat) (rest : List Char) : Scan where
  state := if rest.isEmpty then .unfinished else .mismatched
  position := length - rest.length
  components := none

/-- Scans a text.  The position is where the last step stopped, whether it succeeded or failed. -/
def scan (text : String) : Scan :=
  match scanComponents text.toList with
  | .ok (components, rest) => ⟨.matched, text.length - rest.length, some components⟩
  | .error rest => .ofFailure text.length rest

/-- Whether a text is a version or can be continued to one. -/
def isViable (text : String) : Bool :=
  (scan text).state != .mismatched

/-- Whether a text is a version. -/
def isVersion (text : String) : Bool :=
  (scan text).state == .matched

end SemanticVersion
