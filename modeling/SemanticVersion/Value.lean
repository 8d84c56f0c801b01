import SemanticVersion.Identifier
import SemanticVersion.Version

/-!
# Values of any kind

Settings come from documents, and components come from callers who may pass the wrong thing.  Both
are values of any kind, which are reported by the name of their kind, by their plain text or by
their display.

* `Value` — the type.
* `Foreign` — a value of a kind that has no meaning here.
* `Value.kind`, `Value.fullKind` — the name of a value's kind.
* `Value.literal`, `Value.plain` — the display of a value, and its plain text.  They fail when a
  number inside is too long to be written.
* `Value.holds` — whether a value counts as present.
-/

namespace SemanticVersion

/-- A value of a kind that has no meaning here, such as a date in a document.  Nothing is done with
it but to say what it is. -/
structure Foreign where
  /-- The name of its kind. -/
  kind : String
  /-- The name of its kind with the place where the kind is defined, such as `datetime.date`. -/
  fullKind : String
  /-- Its display. -/
  shown : String
  /-- Its plain text. -/
  plain : String
  /-- Whether it counts as present. -/
  present : Bool
deriving DecidableEq, Repr

/-- A value of any kind. -/
inductive Value where
  /-- No value at all. -/
  | nothing
  /-- A truth value.  It is no number. -/
  | bool (value : Bool)
  /-- A text. -/
  | text (value : String)
  /-- An integer of any size. -/
  | int (value : Int)
  /-- A floating-point number.  It is never computed with, so its text is enough. -/
  | float (shown : String)
  /-- A byte string. -/
  | bytes (value : List UInt8)
  /-- A list of values. -/
  | list (items : List Value)
  /-- A tuple of values. -/
  | tuple (items : List Value)
  /-- A table from names to values, in the order in which it was written. -/
  | table (entries : List (String × Value))
  /-- A version. -/
  | version (value : Version)
  /-- A pre-release field. -/
  | field (value : Field)
  /-- An identifier. -/
  | identifier (value : Identifier)
  /-- A value of any other kind. -/
  | foreign (value : Foreign)
deriving Inhabited

namespace Value

/-- The name of a value's kind. -/
def kind : Value → String
  | .nothing => "NoneType"
  | .bool _ => "bool"
  | .text _ => "str"
  | .int _ => "int"
  | .float _ => "float"
  | .bytes _ => "bytes"
  | .list _ => "list"
  | .tuple _ => "tuple"
  | .table _ => "dict"
  | .version _ => "SemVer"
  | .field (.numeric _) => "NumericField"
  | .field (.alphanumeric _) => "AlphanumericField"
  | .identifier _ => "Identifier"
  | .foreign value => value.kind

/-- The name of a value's kind where the kind itself refuses an operation.  It says for foreign
kinds where they are defined. -/
def fullKind : Value → String
  | .foreign value => value.fullKind
  | value => value.kind

/-- Items between two brackets, with commas between them. -/
def bracketed (opening closing : String) (items : List String) : String :=
  opening ++ ", ".intercalate items ++ closing

/-- Items between round brackets.  A single item is followed by a comma. -/
def bracketedTuple : List String → String
  | [item] => "(" ++ item ++ ",)"
  | items => bracketed "(" ")" items

mutual

/-- How a value is displayed, so that a text can be told from a number. -/
def literal : Value → Except DigitLimit String
  | .nothing => return "None"
  | .bool true => return "True"
  | .bool false => return "False"
  | .text value => return quote value
  | .int value => writeInteger value
  | .float shown => return shown
  | .bytes value => return quoteBytes value
  | .list items => do return bracketed "[" "]" (← literals items)
  | .tuple items => do return bracketedTuple (← literals items)
  | .table entries => do return bracketed "\x7b" "\x7d" (← entryLiterals entries)
  | .version value => value.literal
  | .field value => value.literal
  | .identifier value =>
    return "<Identifier." ++ value.label ++ ": " ++ quote value.name ++ ">"
  | .foreign value => return value.shown

/-- The displays of some values. -/
def literals : List Value → Except DigitLimit (List String)
  | [] => return []
  | value :: values => do return (← literal value) :: (← literals values)

/-- The displays of the entries of a table, each after its key. -/
def entryLiterals : List (String × Value) → Except DigitLimit (List String)
  | [] => return []
  | (key, value) :: entries => do
    return (quote key ++ ": " ++ (← literal value)) :: (← entryLiterals entries)

end

/-- The plain text of a value: a text is itself, and a version or a field is its printed form. -/
def plain : Value → Except DigitLimit String
  | .text value => return value
  | .version value => value.text
  | .field value => value.text
  | .identifier value => return "Identifier." ++ value.label
  | .foreign value => return value.plain
  | value => value.literal

/-- Whether a value counts as present: it is neither nothing nor false nor zero nor empty. -/
def holds : Value → Bool
  | .nothing => false
  | .bool value => value
  | .text value => !value.isEmpty
  | .int value => value != 0
  | .float shown => shown != "0.0" && shown != "-0.0"
  | .bytes value => !value.isEmpty
  | .list items => !items.isEmpty
  | .tuple items => !items.isEmpty
  | .table entries => !entries.isEmpty
  | .version _ | .field _ | .identifier _ => true
  | .foreign value => value.present

end Value

end SemanticVersion
