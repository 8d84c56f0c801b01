/-!
# Sets of characters, written as runs of code points

The properties of characters that this library needs beyond ASCII (which ones are blank, which ones
can be shown, which ones have a lower-case form) come from the Unicode character data.  Each is a
table of runs, in ascending order, and this file says what such a table means.

* `CodePoints` — a set of characters as a list of runs, both ends included.
* `CodePoints.contains` — membership of a character.
-/

namespace SemanticVersion

/-- A set of characters, as a list of runs of code points.  Both ends of a run belong to it. -/
abbrev CodePoints := List (Nat × Nat)

namespace CodePoints

/-- Whether one of the runs covers the character. -/
def contains (runs : CodePoints) (c : Char) : Bool :=
  runs.any fun (first, last) => first ≤ c.toNat && c.toNat ≤ last

end CodePoints

end SemanticVersion
