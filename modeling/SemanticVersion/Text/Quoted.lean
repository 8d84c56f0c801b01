import SemanticVersion.Text.Printable

/-!
# Quoted text

Messages quote the text they complain about, so that blanks, controls and the ends of the text can
be seen.  A text stands between apostrophes, or between double quotes when it holds an apostrophe
and no double quote.  What cannot be shown is written by its code point in hexadecimal.

* `quote` — the quoted form of a text.
* `quoteBytes` — the quoted form of a byte string, which shows ASCII only.
-/

namespace SemanticVersion

/-- The last `width` hexadecimal digits of a number, in lower case. -/
def hexDigits : (width : Nat) → Nat → List Char
  | 0, _ => []
  | width + 1, n => hexDigits width (n / 16) ++ [Nat.digitChar (n % 16)]

/-- The mark that encloses a text: an apostrophe, unless only the double quote keeps the text free
of escaped marks. -/
def quoteMark (cs : List Char) : Char :=
  if cs.contains '\x27' && !cs.contains '\x22' then '\x22' else '\x27'

/-- A character by its code point, in the shortest of the three forms that holds it. -/
def escapeCode (code : Nat) : List Char :=
  if code < 0x100 then '\\' :: 'x' :: hexDigits 2 code
  else if code < 0x10000 then '\\' :: 'u' :: hexDigits 4 code
  else '\\' :: 'U' :: hexDigits 8 code

/-- How one character is written between two marks.  `shows` says which characters are shown as
they are. -/
def escapeChar (shows : Char → Bool) (mark c : Char) : List Char :=
  if c = '\\' || c = mark then ['\\', c]
  else if c = '\t' then ['\\', 't']
  else if c = '\n' then ['\\', 'n']
  else if c = '\r' then ['\\', 'r']
  else if shows c then [c]
  else escapeCode c.toNat

/-- The quoted form of a list of characters. -/
def quoteList (shows : Char → Bool) (cs : List Char) : List Char :=
  let mark := quoteMark cs
  mark :: cs.flatMap (escapeChar shows mark) ++ [mark]

/-- The quoted form of a text. -/
def quote (text : String) : String :=
  String.ofList (quoteList isPrintable text.toList)

/-- The quoted form of a byte string: a leading `b`, and every byte beyond ASCII by its code. -/
def quoteBytes (bytes : List UInt8) : String :=
  let shows c := c.toNat < 0x80 && isPrintable c
  String.ofList ('b' :: quoteList shows (bytes.map fun byte => Char.ofNat byte.toNat))

end SemanticVersion
