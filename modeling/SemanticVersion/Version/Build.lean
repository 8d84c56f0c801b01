import SemanticVersion.Version.Parse

/-!
# Building a version from its components

The grammar alone decides what is valid.  So the components are assembled to a version text, the
text is read like any other, and when it is rejected the offset of the failure is traced back to the
component it lies in.

* `Version.build` — the version with given components, of the right kinds.
* `Version.of` — the same for values of any kind, or for a single version text.
* `Part`, `Version.parts`, `ownerAt` — the pieces of the assembled text, and the piece to blame.
-/

namespace SemanticVersion

/-- A piece of an assembled version text, with the component that it comes from. -/
structure Part where
  /-- Which component it is. -/
  identifier : Identifier
  /-- The component as it was given. -/
  value : Value
  /-- The piece of text, with the mark that belongs to it. -/
  text : String

/-- An optional text as a value. -/
def Value.ofText? : Option String → Value
  | some content => .text content
  | none => .nothing

namespace Version

/-- The pieces of the text of a version with the given components.  The dots belong to the number
in front of them, and the marks to the text behind them. -/
def parts (major minor patch : Int) (prerelease metadata : Option String) :
    Except DigitLimit (List Part) := do
  let first ← writeInteger major
  let second ← writeInteger minor
  let third ← writeInteger patch
  return [
    ⟨.major, .int major, first ++ "."⟩,
    ⟨.minor, .int minor, second ++ "."⟩,
    ⟨.patch, .int patch, third⟩,
    ⟨.prerelease, .ofText? prerelease, marked "-" (prerelease.getD "")⟩,
    ⟨.metadata, .ofText? metadata, marked "+" (metadata.getD "")⟩]

end Version

/-- The part to blame for a failure at an offset.  It is the part that the offset lies in, with two
exceptions: at a mark the component in front of it is incomplete, and behind the last part nothing
but that part can be at fault.  `owner` is the part in front of the offset `start`. -/
def ownerAt (offset : Nat) (owner : Part) (start : Nat) : List Part → Part
  | [] => owner
  | part :: rest =>
    if part.text.isEmpty then ownerAt offset owner start rest
    else
      let stop := start + part.text.length
      if offset < stop then
        if offset = start ∧ part.identifier.isMarked then owner else part
      else ownerAt offset part stop rest

namespace Version

/-- Reports a component as invalid. -/
def blame (identifier : Identifier) (value : Value) (cause : Option Malformed) :
    Except Error Version := do
  throw (.invalidField (← InvalidField.of identifier.name value cause))

/-- The version with the given components.

A mark inside a component can make the assembled text read differently: the pre-release `a+b` would
become the pre-release `a` with the metadata `b`.  So the version is accepted only if it holds the
components that were given. -/
def build (major minor patch : Int) (prerelease metadata : Option String) :
    Except Error Version := do
  let pieces ← parts major minor patch prerelease metadata
  match parse (String.join (pieces.map Part.text)) with
  | .error (.malformed report) =>
    let owner := ownerAt report.offset.toNat ⟨.major, .int major, ""⟩ 0 pieces
    blame owner.identifier owner.value (some report)
  | .error error => throw error
  | .ok version =>
    if version.prerelease ≠ prerelease.getD "" then
      blame .prerelease (.ofText? prerelease) none
    else if version.metadata ≠ metadata.getD "" then
      blame .metadata (.ofText? metadata) none
    else return version

/-- Builds the version again from its own components. -/
def rebuild (version : Version) : Except Error Version :=
  build version.major version.minor version.patch (some version.prerelease)
    (some version.metadata)

end Version

/-! ## Values of any kind -/

namespace Value

/-- The number for a numeric identifier.  A truth value is no number. -/
def toNumber (identifier : Identifier) : Value → Except Error Int
  | .int value => .ok value
  | value => .error (.kindMismatch identifier value.kind "int")

/-- The text for an identifier that holds a text.  Nothing at all clears it. -/
def toText? (identifier : Identifier) : Value → Except Error (Option String)
  | .text value => .ok (some value)
  | .nothing => .ok none
  | value => .error (.kindMismatch identifier value.kind "str")

/-- Whether the value is nothing at all. -/
def isNothing : Value → Bool
  | .nothing => true
  | _ => false

end Value

/-- The version with the given components, or, when the first one is a text, the version that this
text stands for; then there must be no other component. -/
def Version.of (major minor patch prerelease metadata : Value) : Except Error Version :=
  match major with
  | .text content =>
    if [minor, patch, prerelease, metadata].all Value.isNothing then parse content
    else .error .textWithComponents
  | _ => do
    let major ← major.toNumber .major
    let minor ← minor.toNumber .minor
    let patch ← patch.toNumber .patch
    let prerelease ← prerelease.toText? .prerelease
    let metadata ← metadata.toText? .metadata
    build major minor patch prerelease metadata

/-- The version with the components of a list.  Those behind the first may be missing and are nothing
then, but there must not be more than five in all. -/
def Version.ofArguments (arguments : List Value) : Except Error Version :=
  match arguments with
  | [] => .error (.componentCount 0)
  | major :: others =>
    let other (i : Nat) := others.getD i .nothing
    if others.length ≤ 4 then Version.of major (other 0) (other 1) (other 2) (other 3)
    else .error (.componentCount arguments.length)

end SemanticVersion
