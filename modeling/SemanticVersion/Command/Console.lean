import SemanticVersion.Command.Session

/-!
# Running a command line

Between the commands and the outside stands a console.  It reads command lines, and it prints texts.
**How it does either is not part of this library,** so a console is an argument of whatever runs a
command line.

* `Console` — what reads command lines and prints texts.
* `Console.run` — the report of a command line, or why it is not understood.
-/

namespace SemanticVersion

/-- What reads command lines and prints texts. -/
structure Console where
  /-- The meaning of a command line in a file tree and a working directory. -/
  read : FileTree → List String → List String → Except Diversion Invocation
  /-- What is left of a text when it is printed. -/
  shown : String → String

namespace Console

/-- What the command of an invocation depends on. -/
def session (console : Console) (tree : FileTree) (working : List String)
    (environment : Environment) (invocation : Invocation) : Session where
  tree
  working
  environment
  directory := invocation.directory
  verbose := invocation.verbose
  shown := console.shown

/-- The report of a command line, or why it is not understood. -/
def run (console : Console) (tree : FileTree) (working : List String) (environment : Environment)
    (arguments : List String) : Except UsageError Report :=
  match console.read tree working arguments with
  | .ok invocation =>
    .ok ((console.session tree working environment invocation).run invocation.command)
  | .error (.page lines) => .ok (Report.done.printing lines)
  | .error (.usage error) => .error error

end Console

end SemanticVersion
