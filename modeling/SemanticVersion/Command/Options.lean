import SemanticVersion.Command.Line

/-!
# Options on a command line

An option has a long spelling behind two hyphens and perhaps a short one, a single letter behind one
hyphen.  A long option takes its value from behind an equals sign or from the next argument.  Short
options can be joined; the first one that takes a value takes the rest of the argument, or the next
argument when there is no rest.

Two hyphens alone end the options.  An option that waits for a value takes whatever comes next, also
when it looks like an option.

* `OptionSpec` — an option that is understood.
* `readArguments` — the options and the other arguments of a command line, as an `Arguments`.
-/

namespace SemanticVersion

/-- An option that is understood. -/
structure OptionSpec where
  /-- The long spelling, without hyphens. -/
  name : String
  /-- The short spelling. -/
  letter : Option Char := none
  /-- Whether the option takes a value. -/
  takesValue : Bool := false

/-- An option that was given. -/
structure Given where
  /-- Its name. -/
  name : String
  /-- Its value, when it takes one. -/
  value : Option String
deriving DecidableEq, Repr

/-- What was read of a command line. -/
structure Arguments where
  /-- The options in the order in which they were given. -/
  options : List Given
  /-- The other arguments in order. -/
  others : List String
deriving DecidableEq, Repr

namespace Arguments

/-- Adds options that were given in front. -/
def withOptions (given : List Given) (arguments : Arguments) : Arguments :=
  { arguments with options := given ++ arguments.options }

/-- Adds another argument in front. -/
def withOther (argument : String) (arguments : Arguments) : Arguments :=
  { arguments with others := argument :: arguments.others }

/-- Whether an option was given. -/
def has (arguments : Arguments) (name : String) : Bool :=
  arguments.options.any fun given => given.name == name

/-- The value of an option.  The last one counts. -/
def value? (arguments : Arguments) (name : String) : Option String := do
  let given ← arguments.options.reverse.find? fun given => given.name == name
  given.value

/-- Which of some options was given last. -/
def last? (arguments : Arguments) (names : List String) : Option String := do
  let given ← arguments.options.reverse.find? fun given => names.contains given.name
  return given.name

end Arguments

/-! ## One argument -/

/-- What an argument with options in it gives: the options, and the name of the option that still
waits for its value. -/
abbrev OptionResult := Except UsageError (List Given × Option String)

/-- The options of an argument with short spellings, without its hyphen. -/
def readLetters (specs : List OptionSpec) : List Char → OptionResult
  | [] => .ok ([], none)
  | c :: rest =>
    match specs.find? fun spec => spec.letter == some c with
    | none => .error (.unknownOption (String.ofList ['-', c]))
    | some spec =>
      if spec.takesValue then
        if rest.isEmpty then .ok ([], some spec.name)
        else .ok ([⟨spec.name, some (String.ofList rest)⟩], none)
      else do
        let (given, waiting) ← readLetters specs rest
        return (⟨spec.name, none⟩ :: given, waiting)

/-- The option of an argument with a long spelling, without its hyphens. -/
def readLong (specs : List OptionSpec) (cs : List Char) : OptionResult :=
  let name := String.ofList (cs.takeWhile (· != '='))
  match specs.find? fun spec => spec.name == name, cs.dropWhile (· != '=') with
  | none, _ => .error (.unknownOption name)
  | some spec, [] =>
    if spec.takesValue then .ok ([], some spec.name) else .ok ([⟨spec.name, none⟩], none)
  | some spec, _ :: value =>
    if spec.takesValue then .ok ([⟨spec.name, some (String.ofList value)⟩], none)
    else .error (.unexpectedValue spec.name)

/-- The options of an argument, behind its first hyphen. -/
def readOptions (specs : List OptionSpec) (c : Char) (cs : List Char) : OptionResult :=
  if c = '-' then readLong specs cs else readLetters specs (c :: cs)

/-! ## All arguments -/

/-- Reads the arguments of a command line.  `waiting` names an option that waits for its value.
With `mixed` the options may also stand behind other arguments; without it the first other argument
ends the options. -/
def readArguments (specs : List OptionSpec) (mixed : Bool) :
    (waiting : Option String) → List String → Except UsageError Arguments
  | some name, [] => .error (.missingValue name)
  | none, [] => .ok ⟨[], []⟩
  | some name, value :: rest =>
    (·.withOptions [⟨name, some value⟩]) <$> readArguments specs mixed none rest
  | none, argument :: rest =>
    match argument.toList with
    | ['-', '-'] => .ok ⟨[], rest⟩
    | '-' :: c :: cs => do
      let (given, waiting) ← readOptions specs c cs
      (·.withOptions given) <$> readArguments specs mixed waiting rest
    | _ =>
      if mixed then (·.withOther argument) <$> readArguments specs mixed none rest
      else .ok ⟨[], argument :: rest⟩

end SemanticVersion
