/-!
# The grammar of version texts

A version text is three numbers joined by dots, then perhaps a hyphen and a pre-release, then
perhaps a plus sign and build metadata.  Pre-release and metadata are lists of tokens joined by
dots.  This file says which texts are numbers, tokens, pre-releases, metadata and versions, without
saying how one is read: the languages are predicates on lists of characters.

* `IsNumber`, `IsToken`, `IsPrereleaseToken` — the pieces.
* `IsPrerelease`, `IsMetadata` — the dotted lists.
* `Components`, `Components.text` — the five parts of a version text, and the text they make up.
* `IsVersion` — the texts made up of well-formed parts.

**Numbers have one spelling.**  A number has no superfluous leading zero, and neither has a
pre-release token that consists of digits.  A metadata token may have leading zeros, because
metadata is never read as a number.
-/

namespace SemanticVersion

/-! ## Pieces -/

/-- The characters of tokens: the ASCII letters and digits and the hyphen. -/
def isTokenChar (c : Char) : Bool :=
  c.isAlphanum || c == '-'

/-- Whether a list of characters is a non-empty run of ASCII digits. -/
def isNumeral (cs : List Char) : Bool :=
  !cs.isEmpty && cs.all Char.isDigit

/-- Whether a run of digits starts with a superfluous zero. -/
def isPadded (cs : List Char) : Bool :=
  isNumeral cs && cs.head? == some '0' && 1 < cs.length

/-- A number is zero or a run of digits that does not start with zero. -/
def IsNumber (cs : List Char) : Prop :=
  isNumeral cs = true ∧ isPadded cs = false

/-- A token is a non-empty run of token characters. -/
def IsToken (cs : List Char) : Prop :=
  cs ≠ [] ∧ ∀ c ∈ cs, isTokenChar c = true

/-- A token of a pre-release has no superfluous leading zero when it is a run of digits. -/
def IsPrereleaseToken (cs : List Char) : Prop :=
  IsToken cs ∧ isPadded cs = false

/-! ## Dotted lists -/

/-- Some members of a language, at least one, joined by dots. -/
def IsDotted (language : List Char → Prop) (cs : List Char) : Prop :=
  ∃ tokens, tokens ≠ [] ∧ (∀ token ∈ tokens, language token) ∧
    cs = ['.'].intercalate tokens

/-- The pre-releases. -/
def IsPrerelease (cs : List Char) : Prop :=
  IsDotted IsPrereleaseToken cs

/-- The build metadata. -/
def IsMetadata (cs : List Char) : Prop :=
  IsDotted IsToken cs

/-! ## Versions -/

/-- A part of a version text behind its mark, and nothing at all for an empty part. -/
def marked (mark : String) (part : String) : String :=
  if part.isEmpty then "" else mark ++ part

/-- The five parts of a version text.  The two optional ones are empty when absent. -/
structure Components where
  /-- The first number. -/
  major : String
  /-- The second number. -/
  minor : String
  /-- The third number. -/
  patch : String
  /-- What follows the hyphen. -/
  prerelease : String
  /-- What follows the plus sign. -/
  metadata : String
deriving DecidableEq, Repr

namespace Components

/-- The text that the parts make up. -/
def text (parts : Components) : String :=
  parts.major ++ "." ++ parts.minor ++ "." ++ parts.patch ++ marked "-" parts.prerelease ++
    marked "+" parts.metadata

/-- Every part belongs to its language, where an absent optional part is empty. -/
structure WellFormed (parts : Components) : Prop where
  major : IsNumber parts.major.toList
  minor : IsNumber parts.minor.toList
  patch : IsNumber parts.patch.toList
  prerelease : parts.prerelease = "" ∨ IsPrerelease parts.prerelease.toList
  metadata : parts.metadata = "" ∨ IsMetadata parts.metadata.toList

end Components

/-- A version text is made up of well-formed parts. -/
def IsVersion (text : String) : Prop :=
  ∃ parts : Components, parts.WellFormed ∧ parts.text = text

/-- A text is viable when some continuation of it, perhaps the empty one, is a version text. -/
def IsViable (text : String) : Prop :=
  ∃ continuation : String, IsVersion (text ++ continuation)

end SemanticVersion
