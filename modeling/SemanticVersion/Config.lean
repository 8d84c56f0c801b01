import SemanticVersion.Project.Path
import SemanticVersion.Version.Sort

/-!
# Settings

A project's manifest and the environment decide which identifier is incremented by default and how
versions are listed; the manifest also declares the project's version.

* `Config` — the settings.
* `ConfigError` — why settings are refused, with the wording `ConfigError.message`.
* `Config.ofDocument` — the settings in a manifest.
* `Config.override`, `Config.runOverrides` — the settings after the environment, or several
  environments, had their say.
* `Config.update`, `Config.runUpdates` — the settings after any steps of their life.

**An override may fail half way.**  The environment has two settings.  When the second is refused,
the first has already taken effect, so `Config.override` gives the settings together with the
outcome.

**A manifest may have any shape.**  A table in it is asked for by name, and asking something that is
no table is a failure of its own (`ConfigError.failure`), not a refused setting.
-/

namespace SemanticVersion

/-! ## Why settings are refused -/

/-- Why no settings can be had. -/
inductive ConfigError where
  /-- A setting is refused.  The source says where it comes from. -/
  | setting (source problem : String)
  /-- The manifest cannot be read as a document. -/
  | unreadable (reason : String)
  /-- No directory from the starting point upwards holds a manifest. -/
  | noProject
  /-- The directory that was asked for holds no manifest. -/
  | missing (directory : String)
  /-- A failure that is not about settings. -/
  | failure (error : Error)

/-- The wording of a refusal. -/
def ConfigError.message : ConfigError → String
  | .setting source problem => source ++ ": " ++ problem
  | .unreadable reason => "Invalid TOML syntax: " ++ reason
  | .noProject => "Could not find project root (no pyproject.toml found)"
  | .missing directory => "pyproject.toml not found in " ++ directory
  | .failure error => error.message

/-! ## Looking things up in a document -/

namespace Value

/-- The entry of a table under a key.  Asking anything but a table fails. -/
def entry? (key : String) : Value → Except ConfigError (Option Value)
  | .table entries => .ok (entries.lookup key)
  | value => .error (.failure (.lacks value.fullKind "get"))

/-- The entry under a key, or an empty table. -/
def subtable (key : String) (value : Value) : Except ConfigError Value := do
  return (← value.entry? key).getD (.table [])

/-- Whether a value is the text `text`. -/
def isText (text : String) : Value → Bool
  | .text value => value == text
  | _ => false

/-- Whether the first list is a part of the second. -/
def containsRun (part : List Char) : List Char → Bool
  | [] => part.isEmpty
  | c :: rest => part.isPrefixOf (c :: rest) || containsRun part rest

/-- What a value holds under a name, if it mentions the name at all.  A table mentions its keys, a
list its items, and a text its parts; but only a table holds anything under a name. -/
def mentioned? (name : String) : Value → Except ConfigError (Option Value)
  | .table entries => .ok (entries.lookup name)
  | .list items =>
    if items.any (isText name) then .error (.failure (.notIndexable "list")) else .ok none
  | .tuple items =>
    if items.any (isText name) then .error (.failure (.notIndexable "tuple")) else .ok none
  | .text value =>
    if containsRun name.toList value.toList then .error (.failure (.notIndexable "str"))
    else .ok none
  | value => .error (.failure (.notSearchable value.fullKind))

end Value

/-! ## Reading a setting -/

/-- The identifier to increment by default, from the text of a setting.  Metadata has no successor,
so it is no default. -/
def bumpOfText (source text : String) : Except ConfigError Identifier :=
  match Identifier.ofName text with
  | .error error => .error (.setting source error.message)
  | .ok .metadata => .error (.setting source "build metadata cannot be bumped")
  | .ok identifier => .ok identifier

/-- The identifier to increment by default, from a setting of any kind. -/
def bumpOfValue (source : String) : Value → Except ConfigError Identifier
  | .text text => bumpOfText source text
  | value => .error (.setting source ("expected a string, got " ++ value.kind))

/-- The mode that a value names. -/
def Value.sortMode? : Value → Option SortMode
  | .text content => SortMode.ofName? content
  | _ => none

/-- The mode to list versions in, from a setting of any kind. -/
def sortModeOfValue (source : String) (value : Value) : Except ConfigError SortMode :=
  match value.sortMode?, value.literal with
  | some mode, _ => .ok mode
  | none, .ok shown =>
    .error (.setting source ("expected one of " ++ SortMode.choices ++ ", got " ++ shown))
  | none, .error limit => .error (.failure (.digitLimit limit))

/-! ## Settings -/

/-- The settings. -/
structure Config where
  /-- The directory of the manifest, if there is one. -/
  projectDirectory : Option Path := none
  /-- The version that the manifest declares, and the empty text if it declares none.  It is not
  looked at before it is needed, so it may be of any kind. -/
  version : Value := .text ""
  /-- The identifier to increment when none is named. -/
  defaultBump : Identifier := .patch
  /-- The mode to list versions in when none is named, in parsed form: of the texts that a setting can
  hold, only the two names of a mode are ever accepted. -/
  sortMode : SortMode := .strict

/-- The name of the table with this library's settings, inside the table of all tools. -/
def toolTable : String := "semver-value"

namespace Config

/-- Where a setting of the manifest comes from. -/
def documentSource (name : String) : String :=
  "tool." ++ toolTable ++ "." ++ name

/-- The default identifier that this library's table sets, or else the usual one. -/
def documentBump (tool : Value) : Except ConfigError Identifier := do
  match ← tool.mentioned? "default-bump" with
  | some value => bumpOfValue (documentSource "default-bump") value
  | none => return .patch

/-- The mode that this library's table sets, or else the usual one. -/
def documentSortMode (tool : Value) : Except ConfigError SortMode := do
  match ← tool.mentioned? "sort-mode" with
  | some value => sortModeOfValue (documentSource "sort-mode") value
  | none => return .strict

/-- The settings in the document of a manifest. -/
def ofDocument (document : Value) (projectDirectory : Option Path := none) :
    Except ConfigError Config := do
  let project ← document.subtable "project"
  let tools ← document.subtable "tool"
  let tool ← tools.subtable toolTable
  let version ← project.entry? "version"
  let defaultBump ← documentBump tool
  let sortMode ← documentSortMode tool
  return { projectDirectory, version := version.getD (.text ""), defaultBump, sortMode }

end Config

/-! ## The environment -/

/-- The variables of an environment. -/
abbrev Environment := List (String × String)

namespace Environment

/-- The value of a variable.  An empty variable counts as none. -/
def lookup? (environment : Environment) (name : String) : Option String :=
  (environment.lookup name).filter fun value => !value.isEmpty

/-- The default identifier that the environment sets, if it sets one. -/
def defaultBump (environment : Environment) : Except ConfigError (Option Identifier) :=
  match environment.lookup? "SEMVER_DEFAULT_BUMP" with
  | some text => some <$> bumpOfText "SEMVER_DEFAULT_BUMP" text
  | none => .ok none

/-- The mode that the environment sets, if it sets one.  Its name may be in any case. -/
def sortMode (environment : Environment) : Except ConfigError (Option SortMode) :=
  match environment.lookup? "SEMVER_SORT_MODE" with
  | some text => some <$> sortModeOfValue "SEMVER_SORT_MODE" (.text (lower text))
  | none => .ok none

end Environment

namespace Config

/-- The settings after the environment had its say, and whether it was refused. -/
def override (config : Config) (environment : Environment) : Config × Except ConfigError Unit :=
  match environment.defaultBump with
  | .error error => (config, .error error)
  | .ok bump =>
    let config := { config with defaultBump := bump.getD config.defaultBump }
    match environment.sortMode with
    | .error error => (config, .error error)
    | .ok mode => ({ config with sortMode := mode.getD config.sortMode }, .ok ())

/-- The settings after several environments, whether or not they were refused. -/
def runOverrides (config : Config) (environments : List Environment) : Config :=
  environments.foldl (fun config environment => (config.override environment).1) config

/-- A step in the life of settings: a manifest replaces them, or an environment overrides them. -/
inductive Update where
  | document (document : Value)
  | environment (environment : Environment)

/-- The settings after a step, and whether the step was refused.  A refused manifest replaces
nothing. -/
def update (config : Config) : Update → Config × Except ConfigError Unit
  | .document document =>
    match ofDocument document with
    | .ok replaced => (replaced, .ok ())
    | .error error => (config, .error error)
  | .environment environment => config.override environment

/-- The settings after some steps, whether or not they were refused. -/
def runUpdates (config : Config) (updates : List Update) : Config :=
  updates.foldl (fun config step => (config.update step).1) config

end Config

end SemanticVersion
