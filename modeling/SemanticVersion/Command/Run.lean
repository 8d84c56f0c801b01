import SemanticVersion.Command.Console
import SemanticVersion.Command.Reading
import SemanticVersion.Text.ControlSequence

/-!
# The console of the program

The program reads command lines with the reader of this library.  It prints to something that is no
terminal, so what only a terminal has a use for is left out of every text.

* `standardConsole` — the console of the program.
* `runCommandLine` — the report of a command line with this console.
-/

namespace SemanticVersion

/-- The console of the program. -/
def standardConsole : Console where
  read := readCommandLine
  shown := withoutControls

/-- The report of a command line, or why it is not understood. -/
def runCommandLine (tree : FileTree) (working : List String) (environment : Environment)
    (arguments : List String) : Except UsageError Report :=
  standardConsole.run tree working environment arguments

end SemanticVersion
