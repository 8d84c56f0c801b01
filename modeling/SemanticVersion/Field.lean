import SemanticVersion.Decimal
import SemanticVersion.Grammar
import SemanticVersion.Text.Quoted

/-!
# Pre-release fields

The tokens of a pre-release are compared by value, so they are read as fields: a run of digits is a
number, and any other token is a text.  Fields can be read from any text, also from one that is no
pre-release; an empty token is then an empty text.

* `splitFields` — the tokens of a dotted list, and none for the empty text.
* `Field` — a number or a text, with its printed form `Field.text` and its display
  `Field.literal`.
* `readFields`, `fieldsText` — the fields of a text, and the text of some fields.
* `Field.compare`, `compareFields` — the order of fields and of lists of fields.
* `intercalate_splitFields` — joining the tokens gives back the text.
-/

namespace SemanticVersion

/-! ## Tokens -/

/-- The tokens of a dotted list.  The empty text has none. -/
def splitFields (text : String) : List String :=
  if text.isEmpty then [] else (text.toList.splitOn '.').map String.ofList

/-- Joining the tokens by dots gives back the text. -/
theorem intercalate_splitFields (text : String) : ".".intercalate (splitFields text) = text := by
  apply String.toList_injective
  rw [String.toList_intercalate, splitFields]
  split
  · next none => simp [String.isEmpty_iff.1 none]
  · simp only [List.map_map, Function.comp_def, String.toList_ofList, List.map_id']
    exact List.intercalate_splitOn '.'

/-- Whether a token is a non-empty run of ASCII digits.  A sign makes it an ordinary text. -/
def isNatural (token : String) : Bool :=
  isNumeral token.toList

/-! ## Fields -/

/-- A token of a pre-release, by its value. -/
inductive Field where
  /-- A run of digits.  It is compared as a number. -/
  | numeric (value : Int)
  /-- Any other token.  It is compared as a text. -/
  | alphanumeric (text : String)
deriving DecidableEq, Repr

namespace Field

/-- The field that a token stands for. -/
def ofToken (token : String) : Except DigitLimit Field :=
  if isNatural token then do
    let value ← readNatural token.toList
    return .numeric value
  else return .alphanumeric token

/-- The printed form of a field.  Leading zeros of its token are lost. -/
def text : Field → Except DigitLimit String
  | .numeric value => writeInteger value
  | .alphanumeric text => return text

/-- How a field is displayed as a value. -/
def literal : Field → Except DigitLimit String
  | .numeric value => do return "NumericField(value=" ++ (← writeInteger value) ++ ")"
  | .alphanumeric text => return "AlphanumericField(text=" ++ quote text ++ ")"

/-- The order of fields: numbers by value, texts by their characters, and numbers before texts. -/
protected def compare : Field → Field → Ordering
  | .numeric m, .numeric n => Ord.compare m n
  | .alphanumeric s, .alphanumeric t => Ord.compare s t
  | .numeric _, .alphanumeric _ => .lt
  | .alphanumeric _, .numeric _ => .gt

end Field

/-- The fields of a text.  Reading stops at the first token with too many digits. -/
def readFields (text : String) : Except DigitLimit (List Field) :=
  (splitFields text).mapM Field.ofToken

/-- The dotted text of a list of fields. -/
def fieldsText (fields : List Field) : Except DigitLimit String := do
  return ".".intercalate (← fields.mapM Field.text)

/-- The order of two lists of fields: the first difference decides, and of two lists of which one
continues the other the longer one is greater. -/
def compareFields : List Field → List Field → Ordering
  | [], [] => .eq
  | [], _ :: _ => .lt
  | _ :: _, [] => .gt
  | x :: xs, y :: ys => (x.compare y).then (compareFields xs ys)

end SemanticVersion
