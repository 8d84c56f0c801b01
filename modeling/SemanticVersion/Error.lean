import SemanticVersion.Value

/-!
# What goes wrong with versions

Every failure of an operation on versions is one of the causes below.  Two of them are reports in
their own right: a `Malformed` text carries the place where it goes wrong, and an `InvalidField`
carries the component to blame and, when the assembled text was rejected, the report about that
text.

* `Malformed`, `InvalidField` — the two reports.
* `Error` — the causes, with their wording `Error.message`.

**Wording a value can fail.**  A message that displays a value cannot be worded when a number in the
value is too long to be written.  So such a message is worded when the report is made, and what
cannot be worded becomes a `DigitLimit` failure in its place.
-/

namespace SemanticVersion

/-! ## A malformed version -/

/-- The report about something that is no version text. -/
structure Malformed where
  /-- What was rejected. -/
  version : String
  /-- The index of the first character at which the text is no longer viable, and the length of
  the text when it only stops too early.  A report that is made by hand may say anything here, so
  it need not be an index at all. -/
  offset : Int
  /-- The wording of the report. -/
  message : String
deriving DecidableEq, Repr, Inhabited

namespace Malformed

/-- The report about a text that goes wrong at an offset. -/
def unexpected (version : String) (offset : Int) : Malformed where
  version
  offset
  message :=
    "Invalid semantic version " ++ quote version ++ ": unexpected " ++
      (if (version.length : Int) ≤ offset then "end of input" else "character") ++ " at index " ++
      toString offset

/-- The report about a value that is no text at all. -/
def notText (shown kind : String) : Malformed where
  version := shown
  offset := 0
  message := "Version must be a string, got " ++ kind

/-- The report with a wording of its own, unless that is empty. -/
def reworded (report : Malformed) (message : String) : Malformed :=
  if message.isEmpty then report else { report with message }

end Malformed

/-! ## An invalid component -/

/-- The report about a component that makes a version invalid. -/
structure InvalidField where
  /-- The name of the component. -/
  field : String
  /-- The rejected component. -/
  value : Value
  /-- The wording of the report. -/
  message : String
  /-- The report about the assembled text, when that text was rejected. -/
  cause : Option Malformed

/-- The report about a component, worded with the display of its value. -/
def InvalidField.of (field : String) (value : Value) (cause : Option Malformed) :
    Except DigitLimit InvalidField := do
  return { field, value, message := "Invalid " ++ field ++ ": " ++ (← value.literal), cause }

/-- The report with a wording of its own, unless that is empty. -/
def InvalidField.reworded (report : InvalidField) (message : String) : InvalidField :=
  if message.isEmpty then report else { report with message }

/-! ## All causes -/

/-- Why an operation on versions fails. -/
inductive Error where
  /-- A text is no version. -/
  | malformed (report : Malformed)
  /-- A component makes the assembled version invalid. -/
  | invalidField (report : InvalidField)
  /-- The operation is undefined for the identifier. -/
  | illegalOperation (identifier : Identifier) (reason : String)
  /-- A value of the wrong kind was given for the identifier.  The expected kind may be empty. -/
  | kindMismatch (identifier : Identifier) (supplied expected : String)
  /-- A version text was given together with components. -/
  | textWithComponents
  /-- This many components were given, and no version has none, or more than five. -/
  | componentCount (count : Nat)
  /-- A value, displayed here, was given in place of an identifier. -/
  | notIdentifier (shown : String)
  /-- No part of a version has this name. -/
  | unknownName (name : String)
  /-- No version was saved under this name. -/
  | notSaved (name : String)
  /-- Two values, displayed here, were to be compared as fields. -/
  | notFields (first second : String)
  /-- Two values of these kinds have no order. -/
  | notOrdered (symbol first second : String)
  /-- There is no greatest version among none. -/
  | emptyMaximum
  /-- A value of this kind lacks something that was asked of it. -/
  | lacks (kind feature : String)
  /-- A value of this kind cannot be searched for a name. -/
  | notSearchable (kind : String)
  /-- A value of this kind mentions a name but holds nothing under names. -/
  | notIndexable (kind : String)
  /-- A number has too many digits to be converted. -/
  | digitLimit (limit : DigitLimit)
deriving Inhabited

/-- A refused conversion is a failure of the operation that needed it. -/
instance : MonadLift (Except DigitLimit) (Except Error) where
  monadLift
    | .ok a => .ok a
    | .error limit => .error (.digitLimit limit)

@[simp] theorem liftM_ok {α : Type} (a : α) :
    (liftM (Except.ok a : Except DigitLimit α) : Except Error α) = .ok a := rfl

@[simp] theorem liftM_error {α : Type} (limit : DigitLimit) :
    (liftM (Except.error limit : Except DigitLimit α) : Except Error α) =
      .error (.digitLimit limit) := rfl

/-- The wording of a failure. -/
def Error.message : Error → String
  | .malformed report => report.message
  | .invalidField report => report.message
  | .illegalOperation identifier reason =>
    "Cannot operate on " ++ identifier.label ++ ": " ++ reason
  | .kindMismatch identifier supplied expected =>
    identifier.label ++ " does not accept a value of type " ++ supplied ++
      (if expected.isEmpty then "" else " (expected " ++ expected ++ ")")
  | .textWithComponents => "SemVer.of() takes either a version string or its components"
  -- the class on which the call is made counts as an argument, too
  | .componentCount 0 => "SemVer.of() missing 1 required positional argument: 'major'"
  | .componentCount count =>
    "SemVer.of() takes from 2 to 6 positional arguments but " ++ toString (count + 1) ++
      " were given"
  | .notIdentifier shown => "Not a version identifier: " ++ shown
  | .unknownName name =>
    "Unknown version identifier " ++ quote name ++ " (expected one of: " ++ Identifier.choices ++
      ")"
  | .notSaved name => quote name
  | .notFields first second => "Not pre-release fields: " ++ first ++ ", " ++ second
  | .notOrdered symbol first second =>
    quote symbol ++ " not supported between instances of " ++ quote first ++ " and " ++
      quote second
  | .emptyMaximum => "max_version() arg is an empty iterable"
  | .lacks kind feature => quote kind ++ " object has no attribute " ++ quote feature
  | .notSearchable kind =>
    if kind = "bytes" then "a bytes-like object is required, not 'str'"
    else "argument of type " ++ quote kind ++ " is not iterable"
  | .notIndexable kind =>
    if kind = "str" then "string indices must be integers, not 'str'"
    else kind ++ " indices must be integers or slices, not str"
  | .digitLimit limit => limit.message

/-- The part of a version that a name stands for. -/
def Identifier.ofName (name : String) : Except Error Identifier :=
  match ofName? name with
  | some identifier => .ok identifier
  | none => .error (.unknownName name)

/-- The identifier that a value is. -/
def Value.toIdentifier : Value → Except Error Identifier
  | .identifier part => .ok part
  | value => do throw (.notIdentifier (← value.literal))

end SemanticVersion
