import SemanticVersion.Command.Run
import SemanticVersion.Project.ManifestText

/-!
# The program

The program looks at the part of the file system that settings can depend on, runs the command line,
prints the report and ends with its exit status.

* `main` — the program.
-/

namespace SemanticVersion

/-- The directories from a directory upwards, without the topmost one. -/
def upwards : (below : List String) → List (List String)
  | [] => []
  | name :: above => (name :: above).reverse :: upwards above

/-- The directories that are passed on the way along some names. -/
def passed (directory : List String) : List String → List (List String)
  | [] => []
  | name :: names =>
    let next := Path.follow directory [name]
    next :: passed next names

/-- The directories that the settings of a command line can depend on. -/
def consulted (working : List String) (arguments : List String) : List (List String) :=
  let named := match readWithPages generalSpecs false arguments with
    | .ok read =>
      match read.value? "directory" with
      | some text =>
        let path := Path.ofText text
        passed (if path.slashes = 0 then working else []) path.names
      | none => []
    | .error _ => []
  upwards working.reverse ++ named

/-- Whether a directory exists. -/
def directoryExists (directory : List String) : IO Bool := do
  try
    let _ ← IO.FS.Handle.mk ((Path.absolute directory).text ++ "/.") .read
    return true
  catch _ => return false

/-- The manifest in a directory, if there is one that can be read. -/
def readDirectory (directory : List String) : IO (Option Manifest) := do
  try
    let text ← IO.FS.readFile ((Path.absolute directory).child manifestName).text
    return some (readManifest text)
  catch _ => return none

/-- The part of the file system that consists of some directories. -/
def readTree (directories : List (List String)) : IO FileTree := do
  let existing ← directories.filterM directoryExists
  let manifests ← existing.filterMapM fun directory => do
    return (← readDirectory directory).map (directory, ·)
  return { directories := existing, manifests }

/-- The variables that settings depend on. -/
def readEnvironment : IO Environment :=
  ["SEMVER_DEFAULT_BUMP", "SEMVER_SORT_MODE"].filterMapM fun name => do
    return (← IO.getEnv name).map (name, ·)

/-- Prints a report and gives its exit status. -/
def Report.present (report : Report) : IO UInt32 := do
  IO.print (Report.printed report.out)
  IO.eprint (Report.printed report.err)
  if let .aborted error := report.ending then
    IO.eprintln (standardConsole.shown (errorMessage error.message))
  return report.ending.status.toUInt32

end SemanticVersion

open SemanticVersion in
/-- Runs the command line. -/
def main (arguments : List String) : IO UInt32 := do
  let working := (Path.ofText (← IO.currentDir).toString).names
  let tree ← readTree (consulted working arguments)
  match runCommandLine tree working (← readEnvironment) arguments with
  | .ok report => report.present
  | .error _ => do
    IO.eprintln usageLine
    return 2
