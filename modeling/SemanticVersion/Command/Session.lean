import SemanticVersion.Command.Line
import SemanticVersion.Command.Report
import SemanticVersion.Decimal.Argument
import SemanticVersion.Project.Discovery
import SemanticVersion.Version.Change

/-!
# The commands

Every command but `check` gives up at the first failure.  Most print their result behind all the work,
but two do some of it while they print: `sort` writes each version when its line is due, and `fields`
prints the components of a version before it reads the fields of its pre-release.

* `Session` — what commands depend on: the file tree, the environment, the options, and what becomes
  of a text that is printed.
* `Session.run` — the report of a command.

**Failures that are expected** are rejected versions, components and settings; they are printed, and
the exit status is 1.  A number with too many digits is not expected, and neither is a manifest that
is no table of tables; these end the command.
-/

namespace SemanticVersion

/-- What commands depend on. -/
structure Session where
  /-- The file tree. -/
  tree : FileTree
  /-- The working directory. -/
  working : List String
  /-- The environment. -/
  environment : Environment
  /-- The directory whose manifest is to be read, when it was named. -/
  directory : Option Path
  /-- Whether to tell what is going on. -/
  verbose : Bool
  /-- What is left of a text when it is printed.  What is told on request is not concerned. -/
  shown : String → String

/-! ## Messages -/

/-- The message about a failure. -/
def errorMessage (message : String) : String :=
  "Error: " ++ message

/-- A rejected version with a mark under the place where it goes wrong.  The place is counted in the
whole text, also when not all of it is left in print. -/
def Malformed.excerpt (report : Malformed) : String :=
  "  " ++ report.version ++ "\n  " ++
    String.ofList (List.replicate report.offset.toNat ' ') ++ "^"

/-- What is told about a rejected version text. -/
def Malformed.notice (report : Malformed) : String :=
  "Rejected version " ++ quote report.version ++ " at index " ++ toString report.offset ++ " (" ++
    (scan report.version).state.name ++ ")"

/-- The rejected text behind a failure.  What is no text at all was never scanned, so this is asked
only after texts were read. -/
def Error.rejected? : Error → Option Malformed
  | .malformed report => some report
  | .invalidField report => report.cause
  | _ => none

/-- Whether a failure is one that commands expect. -/
def Error.isExpected : Error → Bool
  | .malformed _ | .invalidField _ | .illegalOperation .. | .kindMismatch .. => true
  | _ => false

namespace Session

/-- A line that is printed only on request. -/
def debug (session : Session) (source message : String) : List String :=
  if session.verbose then ["DEBUG: semver_value." ++ source ++ ": " ++ message] else []

/-- What is told about the text behind a failure. -/
def rejection (session : Session) (error : Error) : List String :=
  match error.rejected? with
  | some report => session.debug "semver" report.notice
  | none => []

/-- What is told about where settings come from. -/
def notice (session : Session) (loading : Loading) : List String :=
  match loading.notice with
  | some notice => session.debug "config" notice.message
  | none => []

/-- The lines about a rejected version. -/
def divergence (session : Session) (report : Malformed) : List String :=
  [session.shown (errorMessage report.message), session.shown report.excerpt]

/-! ## Steps -/

/-- Gives up with a message. -/
def fail (session : Session) (message : String) : Report :=
  Report.failed.warning [session.shown (errorMessage message)]

/-- The identifier with a name, or the usual one when no name is given. -/
def target (usual : Identifier) (name : Option String) : Except Error Identifier :=
  match name.filter fun name => !name.isEmpty with
  | some name => Identifier.ofName name
  | none => .ok usual

/-- Goes on with the identifier that a name stands for. -/
def withIdentifier (named : Except Error Identifier) (next : Identifier → Report) : Report :=
  match named with
  | .ok identifier => next identifier
  | .error error => .aborted error

/-- Goes on with the version that an argument stands for. -/
def withVersion (session : Session) (text : String) (next : Version → Report) : Report :=
  match Version.parse text with
  | .ok version => next version
  | .error (.malformed report) =>
    Report.failed.warning (session.rejection (.malformed report) ++ session.divergence report)
  | .error error => .aborted error

/-- Goes on with the versions that some arguments stand for. -/
def withVersions (session : Session) : List String → (List Version → Report) → Report
  | [], next => next []
  | text :: texts, next =>
    session.withVersion text fun version =>
      session.withVersions texts fun versions => next (version :: versions)

/-- Goes on with the version that a setting stands for. -/
def withValue (session : Session) (value : Value) (next : Version → Report) : Report :=
  match value with
  | .text text => session.withVersion text next
  | _ =>
    match value.parse with
    | .ok version => next version
    | .error (.malformed report) => Report.failed.warning (session.divergence report)
    | .error error => .aborted error

/-- Goes on with the settings. -/
def withConfig (session : Session) (next : Config → Report) : Report :=
  let loading :=
    loadConfig session.tree session.working session.environment session.directory
  Report.warning (session.notice loading) <|
    match loading.outcome with
    | .ok config => next config
    | .error (.failure error) => .aborted error
    | .error error => session.fail error.message

/-- Prints one line that may be impossible to write. -/
def print (session : Session) (line : Except DigitLimit String) : Report :=
  match line with
  | .ok line => Report.done.printing [session.shown line]
  | .error limit => .aborted (.digitLimit limit)

/-- Prints the version that an operation gives. -/
def printResult (session : Session) (result : Except Error Version) : Report :=
  match result with
  | .ok version => session.print version.text
  | .error error =>
    if error.isExpected then (session.fail error.message).warning (session.rejection error)
    else .aborted error

/-! ## Commands -/

/-- Tells of each text whether it is a version. -/
def check (session : Session) : List String → Report
  | [] => .done
  | text :: texts =>
    match Version.parse text with
    | .ok _ => (session.check texts).printing [session.shown (text ++ ": valid")]
    | .error (.malformed report) =>
      ((session.check texts).warning
        (session.rejection (.malformed report) ++ session.divergence report)).butFailed
    | .error error => .aborted error

/-- The number that stands for an order. -/
def orderText : Ordering → String
  | .lt => "-1"
  | .eq => "0"
  | .gt => "1"

/-- Compares two versions. -/
def compare (session : Session) (first second : String) (strict : Bool) : Report :=
  session.withVersion first fun a =>
    session.withVersion second fun b =>
      session.print ((if strict then a.strictOrder b else a.precedence b).map orderText)

/-- Increments a version, or the project's version. -/
def bump (session : Session) (version name : Option String) : Report :=
  session.withConfig fun config =>
    let increment (value : Value) :=
      withIdentifier (target config.defaultBump name) fun identifier =>
        session.withValue value fun version => session.printResult (version.next identifier)
    match version with
    | some text => increment (.text text)
    | none =>
      if config.version.holds then increment config.version
      else session.fail "No VERSION given and no [project].version in pyproject.toml"

/-- Replaces a component of a version. -/
def set (session : Session) (name argument text : String) : Report :=
  withIdentifier (Identifier.ofName name) fun identifier =>
    session.withVersion text fun version =>
      if identifier.isNumeric then
        match readArgument? argument with
        | some number => session.printResult (version.replace identifier (.int number))
        | none =>
          session.fail (identifier.name ++ " must be an integer, got " ++ quote argument)
      else session.printResult (version.replace identifier (.text argument))

/-- Prints versions, one on each line.  A version that cannot be written ends the command behind the
lines of the versions in front of it. -/
def printVersions (session : Session) : List Version → Report
  | [] => .done
  | version :: versions =>
    match version.text with
    | .ok line => (session.printVersions versions).printing [session.shown line]
    | .error limit => .aborted (.digitLimit limit)

/-- Prints versions in order. -/
def printSorted (session : Session) (texts : List String) (reverse : Bool) (mode : SortMode) :
    Report :=
  session.withVersions texts fun versions =>
    match sortVersions mode reverse versions with
    | .ok sorted => session.printVersions sorted
    | .error limit => .aborted (.digitLimit limit)

/-- Lists versions in order.  The settings are asked only when the command line does not name a
mode. -/
def sort (session : Session) (texts : List String) (mode : Option SortMode) (reverse : Bool) :
    Report :=
  match mode with
  | some mode => session.printSorted texts reverse mode
  | none => session.withConfig fun config => session.printSorted texts reverse config.sortMode

/-- The lines about the components of a version. -/
def componentLines (version : Version) : Except DigitLimit (List String) := do
  let components ← Identifier.all.mapM fun identifier => do
    return identifier.name ++ ": " ++ (← (version.get identifier).plain)
  return components ++ ["stable: " ++ (if version.isStable then "true" else "false")]

/-- Items with their indices, one line for each. -/
def indexedLines (name : String) (items : List String) : List String :=
  items.mapIdx fun i item => name ++ "[" ++ toString i ++ "]: " ++ item

/-- A field with its kind. -/
def fieldLine (field : Field) : Except DigitLimit String := do
  let kind := match field with
    | .numeric _ => "numeric"
    | .alphanumeric _ => "alphanumeric"
  return (← field.text) ++ " (" ++ kind ++ ")"

/-- The lines about the fields of a version. -/
def fieldLines (version : Version) : Except DigitLimit (List String) := do
  let fields ← (← version.prereleaseFields).mapM fieldLine
  return indexedLines "prerelease" fields ++ indexedLines "metadata" version.metadataFields

/-- Prints several lines that may be impossible to write, and then more. -/
def printThen (session : Session) (lines : Except DigitLimit (List String)) (next : Report) :
    Report :=
  match lines with
  | .ok lines => next.printing (lines.map session.shown)
  | .error limit => .aborted (.digitLimit limit)

/-- Lists the components and the fields of a version. -/
def fields (session : Session) (text : String) : Report :=
  session.withVersion text fun version =>
    session.printThen (componentLines version) (session.printThen (fieldLines version) .done)

/-- The report of a command. -/
def run (session : Session) : Command → Report
  | .check versions => session.check versions
  | .compare first second strict => session.compare first second strict
  | .bump version name => session.bump version name
  | .set name value version => session.set name value version
  | .sort versions mode reverse => session.sort versions mode reverse
  | .fields version => session.fields version

end Session

end SemanticVersion
