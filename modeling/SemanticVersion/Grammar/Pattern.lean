import SemanticVersion.Grammar
import SemanticVersion.Identifier

/-!
# The grammar as a regular expression

Besides the scanner there is one regular expression for version texts, with a named group for each
part.  A regular expression with groups has to say not only which texts it accepts but which way of
matching is meant, so its meaning is an **ordered list of ends**: all the places where a match can
end, in the order in which a backtracking search comes upon them.  A repetition prefers one more
round to none, a choice prefers its first side, and the match that is meant is the first one that
satisfies what follows.

* `Pattern` — regular expressions, and `Pattern.ends`, their meaning.
* `versionPattern` — the regular expression of version texts.
* `matchWhole`, `matchFront` — the match of a whole text, and of its front.
-/

namespace SemanticVersion

/-! ## Regular expressions -/

/-- Regular expressions whose groups are named by the parts of a version. -/
inductive Pattern where
  /-- Nothing is read. -/
  | empty
  /-- One character of a class is read. -/
  | one (accepts : Char → Bool)
  /-- The one and then the other. -/
  | sequence (first second : Pattern)
  /-- The one, or else the other. -/
  | choice (preferred other : Pattern)
  /-- Any number of rounds, as many as possible. -/
  | many (round : Pattern)
  /-- What the inner expression reads is kept under a name. -/
  | group (identifier : Identifier) (inner : Pattern)
  /-- Nothing is read, and at most one line feed is left. -/
  | atEnd

/-- A place in the text during a match. -/
structure Cursor where
  /-- How many characters were read. -/
  position : Nat
  /-- The characters that are left. -/
  rest : List Char
  /-- The groups that were read, the last one first. -/
  groups : List (Identifier × String)
deriving DecidableEq, Repr

/-- The text of a group, when the group took part in the match. -/
def Cursor.group? (cursor : Cursor) (identifier : Identifier) : Option String :=
  cursor.groups.lookup identifier

/-- The ends of any number of rounds, the longest runs first.  A round that reads nothing ends the
repetition. -/
def manyEnds (round : Cursor → List Cursor) (cursor : Cursor) : List Cursor :=
  (round cursor).flatMap (fun next =>
    if next.rest.length < cursor.rest.length then manyEnds round next else []) ++ [cursor]
termination_by cursor.rest.length

namespace Pattern

/-- The ends of the matches that start at the cursor, in order of preference. -/
def ends : Pattern → Cursor → List Cursor
  | .empty, cursor => [cursor]
  | .one accepts, cursor =>
    match cursor.rest with
    | c :: rest =>
      if accepts c then [{ cursor with position := cursor.position + 1, rest }] else []
    | [] => []
  | .sequence first second, cursor => (first.ends cursor).flatMap second.ends
  | .choice preferred other, cursor => preferred.ends cursor ++ other.ends cursor
  | .many round, cursor => manyEnds round.ends cursor
  | .group identifier inner, cursor =>
    (inner.ends cursor).map fun next =>
      let read := String.ofList (cursor.rest.take (next.position - cursor.position))
      { next with groups := (identifier, read) :: next.groups }
  | .atEnd, cursor => if cursor.rest = [] ∨ cursor.rest = ['\n'] then [cursor] else []

/-- One given character. -/
def char (c : Char) : Pattern :=
  .one (· == c)

/-- The expressions one after the other. -/
def inOrder (patterns : List Pattern) : Pattern :=
  patterns.foldr .sequence .empty

/-- The expression, or else nothing. -/
def optional (pattern : Pattern) : Pattern :=
  .choice pattern .empty

/-- One round and then any number of rounds. -/
def atLeastOnce (round : Pattern) : Pattern :=
  .sequence round (.many round)

end Pattern

/-! ## The expression of version texts -/

open Pattern in
/-- Zero, or a run of digits that does not start with zero. -/
def numberPattern : Pattern :=
  .choice (char '0') (.sequence (.one fun c => c.isDigit && c != '0') (.many (.one Char.isDigit)))

open Pattern in
/-- A number, or a token with a letter or a hyphen in it. -/
def prereleaseTokenPattern : Pattern :=
  .choice numberPattern
    (inOrder [.many (.one Char.isDigit), .one fun c => isTokenChar c && !c.isDigit,
      .many (.one isTokenChar)])

open Pattern in
/-- A list of tokens joined by dots. -/
def dottedPattern (token : Pattern) : Pattern :=
  .sequence token (.many (.sequence (char '.') token))

open Pattern in
/-- The regular expression of version texts. -/
def versionPattern : Pattern :=
  inOrder [
    .group .major numberPattern,
    char '.', .group .minor numberPattern,
    char '.', .group .patch numberPattern,
    .optional (.sequence (char '-') (.group .prerelease (dottedPattern prereleaseTokenPattern))),
    .optional (.sequence (char '+')
      (.group .metadata (dottedPattern (.atLeastOnce (.one isTokenChar))))),
    .atEnd]

/-! ## Matching -/

/-- The ends of all matches that start at the front of the text. -/
def versionEnds (text : String) : List Cursor :=
  versionPattern.ends ⟨0, text.toList, []⟩

/-- The match of the whole text. -/
def matchWhole (text : String) : Option Cursor :=
  (versionEnds text).find? fun cursor => cursor.rest.isEmpty

/-- The match at the front of the text.  One line feed at the very end of the text may be left. -/
def matchFront (text : String) : Option Cursor :=
  (versionEnds text).head?

end SemanticVersion
