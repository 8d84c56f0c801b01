/-!
# Decimal numerals and their limit

Version numbers have no upper bound, but turning a decimal text of many digits into a number, or a
number into its decimal text, takes quadratic time.  So the two conversions refuse more than
`digitLimit` digits, and everything that reads or prints a number can fail with a `DigitLimit`.

* `DigitLimit` — the refusal, with its wording `DigitLimit.message`.
* `readNatural` — the number that a run of digits stands for.
* `writeInteger` — the decimal text of an integer.
* `readNatural_toDigits` — reading gives back the number whose digits are read.
-/

namespace SemanticVersion

/-- The greatest number of digits that is converted. -/
def digitLimit : Nat := 4300

/-- The refusal to convert a number of more than `digitLimit` digits. -/
inductive DigitLimit where
  /-- A text of that many digits was not read. -/
  | reading (digits : Nat)
  /-- A number was not written. -/
  | writing
deriving DecidableEq, Repr, Inhabited

/-- The wording of the refusal.  Only a text that was to be read has its digits counted. -/
def DigitLimit.message (limit : DigitLimit) : String :=
  let counted := match limit with
    | .reading digits => ": value has " ++ toString digits ++ " digits"
    | .writing => ""
  "Exceeds the limit (" ++ toString digitLimit ++ " digits) for integer string conversion" ++
    counted ++ "; use sys.set_int_max_str_digits() to increase the limit"

/-! ## Reading -/

/-- The number that a run of ASCII digits stands for.  Leading zeros count towards the limit. -/
def readNatural (digits : List Char) : Except DigitLimit Nat :=
  if digits.length ≤ digitLimit then .ok (Nat.ofDigitChars 10 digits 0)
  else .error (.reading digits.length)

/-- Reading fails exactly on a run of digits over the limit. -/
theorem readNatural_eq_error_iff {digits : List Char} {e : DigitLimit} :
    readNatural digits = .error e ↔ digitLimit < digits.length ∧ e = .reading digits.length := by
  unfold readNatural
  split <;> simp <;> grind

/-- Reading the digits of a number within the limit gives back that number. -/
theorem readNatural_toDigits {n : Nat} (h : (Nat.toDigits 10 n).length ≤ digitLimit) :
    readNatural (Nat.toDigits 10 n) = .ok n := by
  simp [readNatural, h, Nat.ofDigitChars_toDigits]

/-! ## Writing -/

/-- The decimal digits of an integer, after a hyphen when it is negative, without any limit. -/
def integerDigits (n : Int) : List Char :=
  if n < 0 then '-' :: Nat.toDigits 10 n.natAbs else Nat.toDigits 10 n.natAbs

/-- The decimal text of an integer.  A sign is no digit, so it does not count. -/
def writeInteger (n : Int) : Except DigitLimit String :=
  if (Nat.toDigits 10 n.natAbs).length ≤ digitLimit then .ok (String.ofList (integerDigits n))
  else .error .writing

end SemanticVersion
