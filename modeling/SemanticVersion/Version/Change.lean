import SemanticVersion.Version.Build

/-!
# Deriving a version from another

Incrementing and replacing an identifier reset every identifier that is less significant: numbers to
zero, texts to nothing.  So `1.2.5-alpha` becomes `1.3.0` when its second number is incremented, and
`1.8.0` when that number is replaced by 8.

* `Version.get` — the component at an identifier.
* `Version.next` — the version after this one at an identifier.
* `Version.replace` — the version with a component replaced.
* `advance` — the fields that follow the fields of a pre-release.
-/

namespace SemanticVersion

/-! ## Components -/

/-- A component of a version: a number or a text. -/
inductive Component where
  | number (value : Int)
  | text (value : String)
deriving DecidableEq, Repr

/-- The printed form of a component. -/
def Component.plain : Component → Except DigitLimit String
  | .number value => writeInteger value
  | .text value => return value

/-- The component as a value. -/
def Component.toValue : Component → Value
  | .number value => .int value
  | .text value => .text value

namespace Version

/-- The component at an identifier. -/
def get (version : Version) : Identifier → Component
  | .major => .number version.major
  | .minor => .number version.minor
  | .patch => .number version.patch
  | .prerelease => .text version.prerelease
  | .metadata => .text version.metadata

end Version

/-! ## Incrementing -/

/-- The fields that follow.  A number in last place is incremented, and behind a text a new number
starts at one. -/
def advance : List Field → List Field
  | [] => []
  | [.numeric value] => [.numeric (value + 1)]
  | [.alphanumeric text] => [.alphanumeric text, .numeric 1]
  | field :: next :: rest => field :: advance (next :: rest)

namespace Version

/-- The pre-release after this one.  A stable version has none. -/
def nextPrerelease (version : Version) : Except Error Version :=
  if version.isStable then
    .error (.illegalOperation .prerelease "stable version has no pre-release to increment")
  else do
    let fields ← version.prereleaseFields
    let prerelease ← fieldsText (advance fields)
    return { version.stableCore with prerelease }

/-- The version after this one at an identifier. -/
def next (version : Version) : Identifier → Except Error Version
  | .major => .ok { major := version.major + 1, minor := 0, patch := 0 }
  | .minor => .ok { major := version.major, minor := version.minor + 1, patch := 0 }
  | .patch => .ok { version.stableCore with patch := version.patch + 1 }
  | .prerelease => version.nextPrerelease
  | .metadata => .error (.illegalOperation .metadata "build metadata has no successor")

/-! ## Replacing -/

/-- The version with a component replaced.  The value is checked before anything is built, and the
new version is built from the components that are kept.  Replacing the metadata resets nothing. -/
def replace (version : Version) (identifier : Identifier) (value : Value) :
    Except Error Version :=
  match identifier with
  | .major => do build (← value.toNumber .major) 0 0 none none
  | .minor => do build version.major (← value.toNumber .minor) 0 none none
  | .patch => do build version.major version.minor (← value.toNumber .patch) none none
  | .prerelease => do
    build version.major version.minor version.patch (← value.toText? .prerelease) none
  | .metadata => do
    build version.major version.minor version.patch (some version.prerelease)
      (← value.toText? .metadata)

/-! ## Identifiers of any kind -/

/-- The component at a value that should be an identifier. -/
def getAt (version : Version) (place : Value) : Except Error Component := do
  return version.get (← place.toIdentifier)

/-- The version after this one at a value that should be an identifier. -/
def nextAt (version : Version) (place : Value) : Except Error Version := do
  version.next (← place.toIdentifier)

/-- The version with the component at a value replaced.  What is no identifier is found out when it
is asked whether its component is a number. -/
def replaceAt (version : Version) (place value : Value) : Except Error Version :=
  match place with
  | .identifier identifier => version.replace identifier value
  | _ => .error (.lacks place.fullKind "is_numeric")

end Version

end SemanticVersion
