import SemanticVersion.Command.Options
import SemanticVersion.Text.LetterCase

/-!
# Reading a command line

The program's own reader of command lines.  It knows the options and arguments of each command.  Help
comes before everything but a mistake in the options, and the options for all commands come before
the command.

**It is one reader among others.**  The commands do not depend on it, and what is said about them is
said about every reader that keeps to what is documented.

* `Command.ofArguments` — the meaning of the arguments of a command.
* `readCommandLine` — the meaning of a command line.
-/

namespace SemanticVersion

/-- What is read of a command line, unless no command is to be run. -/
abbrev Reading (α : Type) := Except Diversion α

/-- Gives up, as the command line is not understood. -/
def misuse {α : Type} (error : UsageError) : Reading α :=
  .error (.usage error)

/-! ## Pages -/

/-- How the program is called. -/
def usageLine : String :=
  "Usage: semver [-v] [-C DIR] COMMAND [ARGS]..."

/-- The page that an option asks for, if it asks for one: help, or the number of this release. -/
def pageOf? (given : Given) : Option (List String) :=
  match given.name with
  | "help" => some [usageLine]
  | "version" => some ["semver, version 0.1.0"]
  | _ => none

/-- The option for help, which is always there. -/
def helpSpec : OptionSpec :=
  { name := "help" }

/-- Reads arguments among which there may be a question for a page. -/
def readWithPages (specs : List OptionSpec) (mixed : Bool) (arguments : List String) :
    Reading Arguments :=
  match readArguments (helpSpec :: specs) mixed none arguments with
  | .error error => misuse error
  | .ok read =>
    match read.options.findSome? pageOf? with
    | some lines => .error (.page lines)
    | none => .ok read

/-! ## Arguments -/

/-- The name of the part of a version that an argument names.  Only the case of its letters is
free. -/
def readName (argument : String) : Reading String :=
  match Identifier.all.find? fun identifier => identifier.name == fold argument with
  | some identifier => .ok identifier.name
  | none => misuse (.unknownChoice argument)

/-- The directory that an argument names.  It has to exist. -/
def readPlace (tree : FileTree) (working : List String) (argument : String) : Reading Path :=
  let path := Path.ofText argument
  if !argument.isEmpty && (tree.enter working path).isSome then .ok path
  else misuse (.noDirectory argument)

/-- Arguments of which there is at least one. -/
def someArguments : List String → Reading (List String)
  | [] => misuse .missingArgument
  | arguments => .ok arguments

/-! ## Commands -/

namespace Command

/-- Reads `check VERSION...`. -/
def readCheck (arguments : List String) : Reading Command := do
  let read ← readWithPages [] true arguments
  return .check (← someArguments read.others)

/-- Reads `compare VERSION VERSION [--strict]`. -/
def readCompare (arguments : List String) : Reading Command := do
  let read ← readWithPages [{ name := "strict" }] true arguments
  match read.others with
  | [] | [_] => misuse .missingArgument
  | [first, second] => return .compare first second (read.has "strict")
  | _ :: _ :: surplus :: _ => misuse (.surplusArgument surplus)

/-- The option for the identifier to increment. -/
def identifierSpec : OptionSpec :=
  { name := "identifier", letter := 'i', takesValue := true }

/-- Reads `bump [VERSION] [--identifier NAME]`. -/
def readBump (arguments : List String) : Reading Command := do
  let read ← readWithPages [identifierSpec] true arguments
  let name ← (read.value? "identifier").mapM readName
  match read.others with
  | [] => return .bump none name
  | [version] => return .bump version name
  | _ :: surplus :: _ => misuse (.surplusArgument surplus)

/-- Reads `set IDENTIFIER VALUE VERSION`. -/
def readSet (arguments : List String) : Reading Command := do
  let read ← readWithPages [] true arguments
  match read.others with
  | [name, value, version] => return .set (← readName name) value version
  | _ :: _ :: _ :: surplus :: _ => misuse (.surplusArgument surplus)
  | _ => misuse .missingArgument

/-- Reads `sort VERSION... [--precedence | --strict] [--reverse]`. -/
def readSort (arguments : List String) : Reading Command := do
  let specs : List OptionSpec :=
    [{ name := "precedence" }, { name := "strict" }, { name := "reverse", letter := 'r' }]
  let read ← readWithPages specs true arguments
  let versions ← someArguments read.others
  let mode := (read.last? ["precedence", "strict"]).bind SortMode.ofName?
  return .sort versions mode (read.has "reverse")

/-- Reads `fields VERSION`. -/
def readFields (arguments : List String) : Reading Command := do
  let read ← readWithPages [] true arguments
  match read.others with
  | [] => misuse .missingArgument
  | [version] => return .fields version
  | _ :: surplus :: _ => misuse (.surplusArgument surplus)

/-- Reads the arguments of the command with a name.  The case of its letters matters. -/
def ofArguments (name : String) (arguments : List String) : Reading Command :=
  match name with
  | "check" => readCheck arguments
  | "compare" => readCompare arguments
  | "bump" => readBump arguments
  | "set" => readSet arguments
  | "sort" => readSort arguments
  | "fields" => readFields arguments
  | _ => misuse (.unknownCommand name)

end Command

/-! ## Command lines -/

/-- The options for all commands, besides the one for help. -/
def generalSpecs : List OptionSpec :=
  [{ name := "version" }, { name := "verbose", letter := 'v' },
    { name := "directory", letter := 'C', takesValue := true }]

/-- The meaning of a command line. -/
def readCommandLine (tree : FileTree) (working : List String) (arguments : List String) :
    Reading Invocation := do
  let read ← readWithPages generalSpecs false arguments
  let directory ← (read.value? "directory").mapM (readPlace tree working)
  match read.others with
  | [] => misuse .missingCommand
  | name :: arguments =>
    let command ← Command.ofArguments name arguments
    return { verbose := read.has "verbose", directory, command }

end SemanticVersion
