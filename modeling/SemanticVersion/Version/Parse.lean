import SemanticVersion.Divergence
import SemanticVersion.Error
import SemanticVersion.Grammar.Scan

/-!
# Reading a version from its text

A text is scanned; when it is a version its three numbers are read, and when it is none it is
reported with the place where it stops being viable.

* `Version.parse` — the version that a text stands for.
* `Version.ofComponents` — the version with given parts.
* `Value.parse`, `Value.check`, `Value.isVersion` — the same for a value of any kind.
-/

namespace SemanticVersion

/-- The report about a text that the scanner rejected. -/
def Malformed.ofText (text : String) : Malformed :=
  .unexpected text (divergence text isViable).found

namespace Version

/-- The version with the parts of a scanned text.  The numbers are read from the most to the least
significant, and the first that is too long is reported. -/
def ofComponents (parts : Components) : Except DigitLimit Version := do
  let major ← readNatural parts.major.toList
  let minor ← readNatural parts.minor.toList
  let patch ← readNatural parts.patch.toList
  return { major, minor, patch, prerelease := parts.prerelease, metadata := parts.metadata }

/-- The version that a text stands for. -/
def parse (text : String) : Except Error Version :=
  match (scan text).components with
  | some parts => liftM (ofComponents parts)
  | none => .error (.malformed (.ofText text))

end Version

namespace Value

/-- The version that a value stands for.  Only a text stands for one. -/
def parse : Value → Except Error Version
  | .text content => Version.parse content
  | value => do throw (.malformed (.notText (← value.plain) value.kind))

/-- The value itself, when it stands for a version. -/
def check (value : Value) : Except Error Value := do
  let _ ← value.parse
  return value

/-- Whether the value is a version text. -/
def isVersion : Value → Bool
  | .text content => SemanticVersion.isVersion content
  | _ => false

end Value

end SemanticVersion
