import SemanticVersion.Project.FileTree
import SemanticVersion.Version.Sort

/-!
# The command line

A command line names a command with its arguments, behind options that concern all commands.  What
is not understood is found out before any command does anything, and so is a question for help.

What the arguments of a command line mean is not said here.  Commands receive their arguments as they
stand below, from whatever it is that reads command lines.

* `Command` — the commands with their arguments.
* `Invocation` — a command with the options for all commands.
* `Diversion`, `UsageError` — why no command is run.
-/

namespace SemanticVersion

/-- A command with its arguments.  The parts of a version are named by texts. -/
inductive Command where
  /-- Tells of each text whether it is a version. -/
  | check (versions : List String)
  /-- Compares two versions. -/
  | compare (first second : String) (strict : Bool)
  /-- Increments a version, or the project's version. -/
  | bump (version name : Option String)
  /-- Replaces a component of a version. -/
  | set (name value version : String)
  /-- Lists versions in order. -/
  | sort (versions : List String) (mode : Option SortMode) (reverse : Bool)
  /-- Lists the components and the fields of a version. -/
  | fields (version : String)
deriving DecidableEq, Repr

/-- A command with the options for all commands. -/
structure Invocation where
  /-- Whether to tell what is going on. -/
  verbose : Bool
  /-- The directory whose manifest is to be read. -/
  directory : Option Path
  /-- The command. -/
  command : Command
deriving DecidableEq, Repr

/-- Why a command line is not understood. -/
inductive UsageError where
  | unknownOption (argument : String)
  | missingValue (name : String)
  | unexpectedValue (name : String)
  | missingArgument
  | surplusArgument (argument : String)
  | missingCommand
  | unknownCommand (name : String)
  | unknownChoice (argument : String)
  | noDirectory (argument : String)
deriving DecidableEq, Repr

/-- Why no command is run. -/
inductive Diversion where
  /-- Help or the number of this release is asked for.  It is printed, and all is well. -/
  | page (lines : List String)
  /-- The command line is not understood. -/
  | usage (error : UsageError)
deriving DecidableEq, Repr

end SemanticVersion
