import SemanticVersion.Command.Console
import SemanticVersion.Text.ControlSequence

/-!
# What is documented of a console

A console reads command lines and prints texts in its own way.  What commands rely on is written down
here, as far as the documentation of command lines has it.

**What is said of reading.**  A line is read as an invocation with nothing missing: names are among the
five names, a directory exists, and where texts are asked for there is one.  What stands behind the name
of the command and is no option is an operand.  And an invocation can be spelled out in full, with long
options and with two hyphens in front of the operands; then it is read as what it is.  **Not said** is
what else is understood: short and joined options, options in between, the last of several options.

**What is said of printing.**  Texts are printed as they are, unless they may hold control sequences.

* `Command.IsComplete`, `FileTree.IsPlace` — an invocation with nothing missing.
* `Command.operands`, `Command.plainArguments` — what is no option, in a command and on its line.
* `Command.IsTyped` — the two are the same.
* `commandLine` — an invocation, spelled out in full.
* `Console.IsDocumented` — what is documented.
* `Console.IsDocumented.exists_commandLine` — every line is read like one that is spelled out in full.
-/

namespace SemanticVersion

/-! ## Invocations with nothing missing -/

/-- The command has what it cannot do without: names are names of identifiers, and there is something to
check or to list. -/
def Command.IsComplete : Command → Prop
  | .check versions | .sort versions _ _ => versions ≠ []
  | .bump _ name => ∃ identifier : Option Identifier, name = identifier.map Identifier.name
  | .set name _ _ => ∃ identifier : Identifier, name = identifier.name
  | .compare .. | .fields _ => True

/-- The text leads to a directory. -/
def FileTree.IsPlace (tree : FileTree) (working : List String) (text : String) : Prop :=
  text ≠ "" ∧ (tree.enter working (Path.ofText text)).isSome = true

/-! ## Operands and options -/

/-- The arguments that are no options.  An option in `valued` takes the next argument along, and two
hyphens alone end the options.  `taken` says that an option takes the first argument along. -/
def plainArguments (valued : List String) : (taken : Bool) → List String → List String
  | _, [] => []
  | true, _ :: rest => plainArguments valued false rest
  | false, argument :: rest =>
    match argument.toList with
    | ['-', '-'] => rest
    | '-' :: _ :: _ => plainArguments valued (valued.contains argument) rest
    | _ => argument :: plainArguments valued false rest

section PlainArguments

variable {valued rest : List String} {argument : String}

/-- Behind two hyphens alone there are no options. -/
theorem plainArguments_stop (stop : argument.toList = ['-', '-']) :
    plainArguments valued false (argument :: rest) = rest := by
  obtain rfl : argument = "--" := String.toList_inj.1 stop
  rfl

/-- An option is passed over, perhaps with the next argument. -/
theorem plainArguments_option {c : Char} {cs : List Char} (spelled : argument.toList = '-' :: c :: cs)
    (goesOn : c = '-' → cs ≠ []) : plainArguments valued false (argument :: rest) =
      plainArguments valued (valued.contains argument) rest := by
  rw [plainArguments]
  split
  · next stop =>
    obtain ⟨-, hyphen⟩ := List.cons.inj (spelled.symm.trans stop)
    obtain ⟨same, ends⟩ := List.cons.inj hyphen
    exact absurd ends (goesOn same)
  · rfl
  · next plain => exact absurd spelled (plain c cs)

/-- Anything else is kept. -/
theorem plainArguments_plain (plain : ∀ c cs, argument.toList ≠ '-' :: c :: cs) :
    plainArguments valued false (argument :: rest) = argument :: plainArguments valued false rest := by
  rw [plainArguments]
  split
  · next stop => exact absurd stop (plain '-' [])
  · next c cs _ spelled => exact absurd spelled (plain c cs)
  · rfl

end PlainArguments

namespace Command

/-- The name of the command. -/
def name : Command → String
  | .check _ => "check"
  | .compare .. => "compare"
  | .bump .. => "bump"
  | .set .. => "set"
  | .sort .. => "sort"
  | .fields _ => "fields"

/-- The operands of the command. -/
def operands : Command → List String
  | .check versions | .sort versions _ _ => versions
  | .compare first second _ => [first, second]
  | .bump version _ => version.toList
  | .set name value version => [name, value, version]
  | .fields version => [version]

/-- The options of the command in their long spelling. -/
def options : Command → List String
  | .compare _ _ strict => if strict then ["--strict"] else []
  | .bump _ name => name.elim [] fun text => ["--identifier", text]
  | .sort _ mode reverse =>
    mode.elim [] (fun mode => ["--" ++ mode.name]) ++ if reverse then ["--reverse"] else []
  | .check _ | .set .. | .fields _ => []

/-- The arguments behind the name of the command that are no options. -/
def plainArguments (command : Command) (arguments : List String) : List String :=
  match command with
  | .bump .. => SemanticVersion.plainArguments ["-i", "--identifier"] false arguments
  | _ => SemanticVersion.plainArguments [] false arguments

/-- Behind its name the command is typed with these arguments: what is no option there are its operands,
letter by letter, except for a name, which has more than one spelling. -/
def IsTyped (command : Command) (arguments : List String) : Prop :=
  match command with
  | .set _ value version => ∃ name, command.plainArguments arguments = [name, value, version]
  | _ => command.plainArguments arguments = command.operands

end Command

/-- An invocation, spelled out in full.  Two hyphens keep its operands from being read as options. -/
def commandLine (verbose : Bool) (place : Option String) (command : Command) : List String :=
  (if verbose then ["--verbose"] else []) ++ place.elim [] (fun text => ["--directory", text]) ++
    command.name :: (command.options ++ "--" :: command.operands)

/-! ## What is documented -/

namespace Console

/-- What is documented of a console. -/
structure IsDocumented (console : Console) : Prop where
  /-- A text without an escape character is printed as it is. -/
  shown_eq_self : ∀ text, escape ∉ text.toList → console.shown text = text
  /-- Nothing is missing in a command.  A name is handed over in its usual spelling, however it was
  typed. -/
  complete : ∀ {tree working arguments invocation},
    console.read tree working arguments = .ok invocation → invocation.command.IsComplete
  /-- A directory is read from a text that leads to one. -/
  directory : ∀ {tree working arguments invocation},
    console.read tree working arguments = .ok invocation →
      ∃ place : Option String, (∀ text ∈ place, tree.IsPlace working text) ∧
        invocation.directory = place.map Path.ofText
  /-- What is no option behind the name of the command is an operand, and nothing else is. -/
  typed : ∀ {tree working arguments invocation},
    console.read tree working arguments = .ok invocation →
      ∃ front rest, arguments = front ++ invocation.command.name :: rest ∧
        invocation.command.IsTyped rest
  /-- An invocation with nothing missing is understood when it is spelled out in full. -/
  spelled : ∀ {tree working place command}, (∀ text ∈ place, tree.IsPlace working text) →
    command.IsComplete → ∀ verbose,
      console.read tree working (commandLine verbose place command) =
        .ok ⟨verbose, place.map Path.ofText, command⟩

/-- **Every command line is read like one that is spelled out in full.** -/
theorem IsDocumented.exists_commandLine {console : Console} (documented : console.IsDocumented)
    {tree : FileTree} {working arguments : List String} {invocation : Invocation}
    (accepted : console.read tree working arguments = .ok invocation) :
    ∃ place : Option String, invocation.directory = place.map Path.ofText ∧
      console.read tree working (commandLine invocation.verbose place invocation.command) =
        .ok invocation := by
  obtain ⟨place, leads, directory⟩ := documented.directory accepted
  refine ⟨place, directory, ?_⟩
  rw [documented.spelled leads (documented.complete accepted), ← directory]

end Console

end SemanticVersion
