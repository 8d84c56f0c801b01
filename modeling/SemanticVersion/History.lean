import SemanticVersion.Version.Change
import SemanticVersion.Version.Precedence

/-!
# A history of changes

A version is changed step by step.  There is one current version, and versions can be saved under
names and taken up again.  **A step that fails changes nothing.**

* `History` — the current version and the saved ones.
* `Change` — the steps.
* `History.apply` — one step.
* `History.run` — any number of steps, of which those that fail are passed over.
-/

namespace SemanticVersion

/-- The current version and the saved ones, by name and in the order of the names. -/
structure History where
  /-- The current version. -/
  current : Version
  /-- The saved versions. -/
  saved : List (String × Version) := []

/-- A step of a history.  Its arguments are values of any kind. -/
inductive Change where
  /-- Takes the version that a value stands for. -/
  | parse (value : Value)
  /-- Takes the version with the given components. -/
  | of (arguments : List Value)
  /-- Increments an identifier. -/
  | next (place : Value)
  /-- Replaces a component. -/
  | replace (place value : Value)
  /-- Builds the current version again from its components. -/
  | rebuild
  /-- Reads the current version again from its text. -/
  | reparse
  /-- Saves the current version. -/
  | save (name : String)
  /-- Takes a saved version. -/
  | load (name : String)

/-- A name with its version put in its place among the others, instead of an earlier version of that
name. -/
def saveAs (name : String) (version : Version) :
    List (String × Version) → List (String × Version)
  | [] => [(name, version)]
  | (other, kept) :: rest =>
    match compare name other with
    | .lt => (name, version) :: (other, kept) :: rest
    | .eq => (name, version) :: rest
    | .gt => (other, kept) :: saveAs name version rest

namespace History

/-- The version that a step makes current. -/
def target (history : History) : Change → Except Error Version
  | .parse value => value.parse
  | .of arguments => Version.ofArguments arguments
  | .next place => history.current.nextAt place
  | .replace place value => history.current.replaceAt place value
  | .rebuild => history.current.rebuild
  | .reparse => do Version.parse (← history.current.text)
  | .save _ => .ok history.current
  | .load name =>
    match history.saved.lookup name with
    | some version => .ok version
    | none => .error (.notSaved name)

/-- The history after a step. -/
def apply (history : History) (change : Change) : Except Error History := do
  let current ← history.target change
  match change with
  | .save name => return { current, saved := saveAs name current history.saved }
  | _ => return { history with current }

/-- The history after some steps.  A step that fails leaves it as it was. -/
def run (history : History) : List Change → History
  | [] => history
  | change :: changes =>
    match history.apply change with
    | .ok next => next.run changes
    | .error _ => history.run changes

end History

end SemanticVersion
