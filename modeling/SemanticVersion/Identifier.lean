import SemanticVersion.Text.Blank
import SemanticVersion.Text.LetterCase

/-!
# Identifiers: the five parts of a version by name

A person names the part to increment or to replace.  The names are read with the blanks around them
removed and without regard to case.

* `Identifier` — the five parts, from the most to the least significant.
* `Identifier.name`, `Identifier.label` — the two spellings, in small and in capital letters.
* `Identifier.ofName?` — the part that a name stands for.
-/

namespace SemanticVersion

/-- A part of a version.  The parts are listed from the most to the least significant. -/
inductive Identifier where
  | major
  | minor
  | patch
  | prerelease
  | metadata
deriving DecidableEq, Repr

namespace Identifier

/-- The parts in order of significance. -/
def all : List Identifier :=
  [.major, .minor, .patch, .prerelease, .metadata]

/-- No part is missing from the list. -/
theorem mem_all (identifier : Identifier) : identifier ∈ all := by
  cases identifier <;> simp [all]

/-- The name of a part. -/
def name : Identifier → String
  | .major => "major"
  | .minor => "minor"
  | .patch => "patch"
  | .prerelease => "prerelease"
  | .metadata => "metadata"

/-- The name of a part in capital letters, as messages mention it. -/
def label : Identifier → String
  | .major => "MAJOR"
  | .minor => "MINOR"
  | .patch => "PATCH"
  | .prerelease => "PRERELEASE"
  | .metadata => "METADATA"

/-- Whether the part holds a number. -/
def isNumeric : Identifier → Bool
  | .major | .minor | .patch => true
  | .prerelease | .metadata => false

/-- Whether a mark separates the part from what comes before it. -/
def isMarked (identifier : Identifier) : Bool :=
  !identifier.isNumeric

/-- The part that a name stands for, whatever the case of its letters and the blanks around it. -/
def ofName? (text : String) : Option Identifier :=
  all.find? fun identifier => identifier.name == lower (trim isBlank text)

/-- The names of all parts, for a message that lists them. -/
def choices : String :=
  ", ".intercalate (all.map name)

end Identifier

end SemanticVersion
