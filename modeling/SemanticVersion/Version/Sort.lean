import SemanticVersion.SortKey
import SemanticVersion.Value.Order

/-!
# Sorting versions

Versions are sorted by keys.  Each of the two orders has its key, and a key can be computed or not
for each version on its own, so a list is sorted only if all its keys can be computed.

* `SortMode` — the two orders by name.
* `Version.precedenceKey`, `Version.strictKey` — their keys.
* `Keyed` — a version with its key, and what can be done with a list of these.
* `sortVersions`, `sortValues` — the stable sort of versions, and of values that stand for them.
* `greatestVersion`, `greatestValue` — the greatest version of a list.
* `sortValues_version` — for values that are versions the two sorts are the same.
-/

namespace SemanticVersion

/-! ## Modes -/

/-- The order in which versions are listed. -/
inductive SortMode where
  /-- By precedence, and by metadata among versions of equal precedence. -/
  | strict
  /-- By precedence alone. -/
  | precedence
deriving DecidableEq, Repr

namespace SortMode

/-- The modes in the order in which a message lists them. -/
def all : List SortMode :=
  [.strict, .precedence]

/-- No mode is missing from the list. -/
theorem mem_all (mode : SortMode) : mode ∈ all := by
  cases mode <;> simp [all]

/-- The name of a mode. -/
def name : SortMode → String
  | .strict => "strict"
  | .precedence => "precedence"

/-- The mode with exactly this name. -/
def ofName? (text : String) : Option SortMode :=
  all.find? fun mode => mode.name == text

/-- The names of all modes, for a message that lists them. -/
def choices : String :=
  ", ".intercalate (all.map name)

end SortMode

/-! ## Keys -/

/-- The key of a field.  The leading number puts numbers before texts, and the places behind it keep
numbers and texts apart. -/
def Field.key : Field → SortKey
  | .numeric value => .tuple [.number 0, .number value, .text ""]
  | .alphanumeric text => .tuple [.number 1, .number 0, .text text]

namespace Version

/-- The key of the pre-release, in which a stable version comes after any pre-release. -/
def prereleaseKey (version : Version) : Except DigitLimit SortKey :=
  if version.isStable then return .tuple [.number 1]
  else do
    let fields ← version.prereleaseFields
    return .tuple [.number 0, .tuple (fields.map Field.key)]

/-- The key for sorting by precedence. -/
def precedenceKey (version : Version) : Except DigitLimit SortKey := do
  let prerelease ← version.prereleaseKey
  return .tuple [.number version.major, .number version.minor, .number version.patch, prerelease]

/-- The key for sorting by the strict order. -/
def strictKey (version : Version) : Except DigitLimit SortKey := do
  return .tuple [← version.precedenceKey, .text version.metadata]

end Version

/-- The key of a version in a mode. -/
def SortMode.key : SortMode → Version → Except DigitLimit SortKey
  | .strict => Version.strictKey
  | .precedence => Version.precedenceKey

/-! ## Entries -/

/-- A version with its key. -/
structure Keyed where
  key : SortKey
  version : Version

/-- A version with its key in a mode. -/
def Version.keyed (mode : SortMode) (version : Version) : Except DigitLimit Keyed := do
  return { key := ← mode.key version, version }

/-- A value that has to be a version, with its key in a mode. -/
def Value.keyed (mode : SortMode) (value : Value) : Except Error Keyed := do
  (← value.asVersion "is_stable").keyed mode

/-- Some versions with their keys.  The first key that cannot be computed is reported. -/
def keyed (mode : SortMode) (versions : List Version) : Except DigitLimit (List Keyed) :=
  versions.mapM (Version.keyed mode)

/-- The versions that some values are or stand for, with their keys.  First all texts are read, and
then the first value that is no version or has no key is reported. -/
def keyedValues (mode : SortMode) (values : List Value) : Except Error (List Keyed) := do
  let resolved ← values.mapM Value.resolved
  resolved.mapM (Value.keyed mode)

/-- Among versions alone there is nothing to read, and only a key can be missing. -/
theorem keyedValues_version (mode : SortMode) (versions : List Version) :
    keyedValues mode (versions.map .version) = liftM (keyed mode versions) := by
  have step : (versions.map Value.version).mapM (Value.keyed mode) =
      liftM (keyed mode versions) := by
    induction versions with
    | nil => rfl
    | cons version rest ih =>
      have head : (Value.version version).keyed mode = liftM (version.keyed mode) := rfl
      rw [List.map_cons, List.mapM_cons, ih, head]
      simp only [keyed, List.mapM_cons]
      cases version.keyed mode with
      | error limit => rfl
      | ok entry => cases rest.mapM (Version.keyed mode) <;> rfl
  rw [keyedValues, Value.mapM_resolved_version]
  exact step

/-- Whether one entry may stand in front of another. -/
def Keyed.precedes (reverse : Bool) (a b : Keyed) : Bool :=
  if reverse then b.key.precedes a.key else a.key.precedes b.key

/-- The later of two entries, and the first one when neither is later. -/
def Keyed.later (a b : Keyed) : Keyed :=
  if b.key.compare? a.key == some .gt then b else a

/-- The versions of some entries in order, or in descending order.  Versions of equal keys keep
their places among themselves in both directions. -/
def inOrder (reverse : Bool) (entries : List Keyed) : List Version :=
  (entries.mergeSort (Keyed.precedes reverse)).map Keyed.version

/-- The greatest version of some entries, and the first of the greatest ones. -/
def greatestOf : List Keyed → Except Error Version
  | [] => .error .emptyMaximum
  | first :: rest => .ok (rest.foldl Keyed.later first).version

/-! ## Sorting -/

/-- The versions in order. -/
def sortVersions (mode : SortMode) (reverse : Bool) (versions : List Version) :
    Except DigitLimit (List Version) := do
  return inOrder reverse (← keyed mode versions)

/-- The versions that some values are or stand for, in order. -/
def sortValues (mode : SortMode) (reverse : Bool) (values : List Value) :
    Except Error (List Version) := do
  return inOrder reverse (← keyedValues mode values)

/-- Sorting values that are versions is sorting versions. -/
theorem sortValues_version (mode : SortMode) (reverse : Bool) (versions : List Version) :
    sortValues mode reverse (versions.map .version) =
      liftM (sortVersions mode reverse versions) := by
  rw [sortValues, keyedValues_version, sortVersions]
  cases keyed mode versions <;> rfl

/-- The texts of some versions. -/
def versionTexts (versions : List Version) : Except DigitLimit (List String) :=
  versions.mapM Version.text

/-! ## The greatest version -/

/-- The greatest version by the strict order. -/
def greatestVersion (versions : List Version) : Except Error Version := do
  let entries ← keyed .strict versions
  greatestOf entries

/-- The greatest of the versions that some values are or stand for. -/
def greatestValue (values : List Value) : Except Error Version := do
  let entries ← keyedValues .strict values
  greatestOf entries

end SemanticVersion
