import SemanticVersion.Decimal
import SemanticVersion.Text.Blank
import SemanticVersion.Text.DecimalDigit

/-!
# Integers given as arguments

A person may write an integer with a sign, with blanks around it, with leading zeros, with the
digits of any script, and with single underscores that group the digits.

* `groupedDigits?` — the values of a run of digits with underscores between them.
* `readArgument?` — the integer that an argument stands for.
-/

namespace SemanticVersion

/-- The values of the digits of a run.  An underscore may stand between two digits, and nowhere
else. -/
def groupedDigits? : List Char → Option (List Nat)
  | [] => none
  | [c] => (decimalDigit? c).map ([·])
  | c :: '_' :: rest => do return (← decimalDigit? c) :: (← groupedDigits? rest)
  | c :: rest => do return (← decimalDigit? c) :: (← groupedDigits? rest)

/-- The number that a run of digits stands for, when it is a run of digits within the limit. -/
def readGrouped? (cs : List Char) : Option Nat := do
  let digits ← groupedDigits? cs
  guard (digits.length ≤ digitLimit)
  return digits.foldl (10 * · + ·) 0

/-- The integer that an argument stands for, or nothing when it is no integer.  An integer over the
digit limit counts as none. -/
def readArgument? (text : String) : Option Int :=
  match trimList isNumberBlank text.toList with
  | '-' :: rest => (readGrouped? rest).map fun n => -(n : Int)
  | '+' :: rest => (readGrouped? rest).map fun n => (n : Int)
  | cs => (readGrouped? cs).map fun n => (n : Int)

end SemanticVersion
