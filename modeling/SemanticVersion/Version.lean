import SemanticVersion.Field

/-!
# Versions

A version is three numbers with a pre-release text and a metadata text, both of which may be empty.
Nothing is checked when a version is put together directly, so the numbers may be negative and the
texts may be anything; the versions that obey the grammar are the well-formed ones.

* `Version` — the type.
* `Version.core`, `Version.text`, `Version.literal` — its printed forms.
* `Version.isStable`, `Version.prereleaseFields`, `Version.metadataFields` — what its texts hold.
* `Version.WellFormed` — the versions that obey the grammar.
-/

namespace SemanticVersion

/-- A version. -/
structure Version where
  /-- The number of incompatible changes. -/
  major : Int
  /-- The number of compatible additions. -/
  minor : Int
  /-- The number of compatible repairs. -/
  patch : Int
  /-- The pre-release tokens joined by dots, and empty for a stable version. -/
  prerelease : String := ""
  /-- The build metadata joined by dots, and empty when absent. -/
  metadata : String := ""
deriving DecidableEq, Repr

namespace Version

/-- The three numbers joined by dots. -/
def core (version : Version) : Except DigitLimit String := do
  let major ← writeInteger version.major
  let minor ← writeInteger version.minor
  let patch ← writeInteger version.patch
  return major ++ "." ++ minor ++ "." ++ patch

/-- The text of a version. -/
def text (version : Version) : Except DigitLimit String := do
  return (← version.core) ++ marked "-" version.prerelease ++ marked "+" version.metadata

/-- How a version is displayed as a value. -/
def literal (version : Version) : Except DigitLimit String := do
  return "SemVer(" ++ quote (← version.text) ++ ")"

/-- A version is stable when it is no pre-release. -/
def isStable (version : Version) : Bool :=
  version.prerelease.isEmpty

/-- The pre-release tokens by value. -/
def prereleaseFields (version : Version) : Except DigitLimit (List Field) :=
  readFields version.prerelease

/-- The metadata tokens.  They have no value besides their text. -/
def metadataFields (version : Version) : List String :=
  splitFields version.metadata

/-- The stable version with the same numbers. -/
def stableCore (version : Version) : Version :=
  { version with prerelease := "", metadata := "" }

/-- The versions that obey the grammar: no number is negative, and each text is empty or in its
language. -/
structure WellFormed (version : Version) : Prop where
  major : 0 ≤ version.major
  minor : 0 ≤ version.minor
  patch : 0 ≤ version.patch
  prerelease : version.prerelease = "" ∨ IsPrerelease version.prerelease.toList
  metadata : version.metadata = "" ∨ IsMetadata version.metadata.toList

end Version

end SemanticVersion
