import SemanticVersion.Text.CodePoints

/-!
# Blank characters

Names are read with the blanks around them removed, and so are the integers of the command line.
The two use different sets: the four information separators U+001C to U+001F are blank in a name
but are no blanks around an integer.

* `isBlank` — the blanks of a name.
* `isNumberBlank` — the blanks that may stand around an integer.
* `trim` — a text without the characters of a class at its two ends.
-/

namespace SemanticVersion

/-- The blank characters: the ASCII controls that move the cursor or separate information, the
space, and the spaces and line ends beyond ASCII. -/
def blanks : CodePoints :=
  [(0x09, 0x0d), (0x1c, 0x20), (0x85, 0x85), (0xa0, 0xa0), (0x1680, 0x1680), (0x2000, 0x200a),
    (0x2028, 0x2029), (0x202f, 0x202f), (0x205f, 0x205f), (0x3000, 0x3000)]

/-- Whether the character counts as blank at the ends of a name. -/
def isBlank (c : Char) : Bool :=
  blanks.contains c

/-- Whether the character may stand around an integer: a blank that is no information separator. -/
def isNumberBlank (c : Char) : Bool :=
  isBlank c && !(0x1c ≤ c.toNat && c.toNat ≤ 0x1f)

/-- The list without the leading and the trailing members of the class. -/
def trimList (drop : Char → Bool) (cs : List Char) : List Char :=
  ((cs.dropWhile drop).reverse.dropWhile drop).reverse

/-- The text without the leading and the trailing characters of the class. -/
def trim (drop : Char → Bool) (text : String) : String :=
  String.ofList (trimList drop text.toList)

end SemanticVersion
