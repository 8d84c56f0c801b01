import SemanticVersion.Decimal.Argument
import SemanticVersion.Project.FileTree

/-!
# Reading the text of a manifest

A manifest is a text of lines.  A line in square brackets opens a table, and a line with an equals
sign gives a key of the open table a value.  Only what settings can consist of is read: texts on one
line, truth values and numbers.  Every other line is passed over, together with the tables of an
array of tables.

**This is no full reader of the format.**  It reads a small part of it, enough to try the program on
manifests as they are usually written, and only the program calls it.  Settings are made from
documents, however these were read, and no theorem speaks about this file.

* `readManifest` — the manifest with a text.
* `readLine`, `readScalar`, `readKeys` — one line, the value on it, and the keys in front of it.
-/

namespace SemanticVersion

/-! ## Pieces of a line -/

/-- The list without the blanks at both ends. -/
def trimBlanks (cs : List Char) : List Char :=
  trimList isNumberBlank cs

/-- The characters of a text in double quotes, up to the closing one, with the usual escapes. -/
def readEscaped : List Char → Option (List Char)
  | [] => none
  | '\x22' :: _ => some []
  | '\\' :: 'n' :: rest => ('\n' :: ·) <$> readEscaped rest
  | '\\' :: 't' :: rest => ('\t' :: ·) <$> readEscaped rest
  | '\\' :: 'r' :: rest => ('\r' :: ·) <$> readEscaped rest
  | '\\' :: c :: rest => (c :: ·) <$> readEscaped rest
  | c :: rest => (c :: ·) <$> readEscaped rest

/-- The keys of a dotted key, without the quotes around them. -/
def readKeys (cs : List Char) : List String :=
  let isMark (c : Char) := c == '\x22' || c == '\x27' || isNumberBlank c
  (cs.splitOn '.').map fun key => String.ofList (trimList isMark key)

/-- A value on one line, if it is of a kind that is read. -/
def readScalar (cs : List Char) : Option Value :=
  match trimBlanks cs with
  | '\x22' :: rest => (readEscaped rest).map fun text => .text (String.ofList text)
  | '\x27' :: rest =>
    if rest.contains '\x27' then some (.text (String.ofList (rest.takeWhile (· != '\x27'))))
    else none
  | cs =>
    let word := String.ofList (trimBlanks (cs.takeWhile (· != '#')))
    if word = "true" then some (.bool true)
    else if word = "false" then some (.bool false)
    else match readArgument? word with
      | some number => some (.int number)
      | none => if (cs.head?.map Char.isDigit).getD false then some (.float word) else none

/-! ## Tables -/

/-- A table with an entry put under a key, instead of an earlier one. -/
def putEntry (key : String) (value : Value) : List (String × Value) → List (String × Value)
  | [] => [(key, value)]
  | (other, kept) :: rest =>
    if other = key then (key, value) :: rest else (other, kept) :: putEntry key value rest

/-- A document with a value put where some keys lead. -/
def putAt (value : Value) : List String → Value → Value
  | [], _ => value
  | key :: keys, document =>
    let entries := match document with
      | .table entries => entries
      | _ => []
    .table (putEntry key (putAt value keys ((entries.lookup key).getD (.table []))) entries)

/-- Whether some keys lead to a table of a document. -/
def leadToTable : List String → Value → Bool
  | [], .table _ => true
  | key :: keys, .table entries =>
    match entries.lookup key with
    | some value => leadToTable keys value
    | none => false
  | _, _ => false

/-- A document in which some keys lead to a table. -/
def openAt (keys : List String) (document : Value) : Value :=
  if leadToTable keys document then document else putAt (.table []) keys document

/-! ## Lines -/

/-- What was read so far: the document, and the keys of the open table unless its lines are passed
over. -/
structure ManifestState where
  /-- The document. -/
  document : Value := .table []
  /-- The keys of the open table. -/
  table : Option (List String) := some []

/-- Reads one line.  A table that is opened but not closed makes the manifest unreadable; the number
of the line is needed to say so. -/
def readLine (number : Nat) (state : ManifestState) (line : List Char) :
    Except String ManifestState :=
  match trimBlanks line with
  | '[' :: '[' :: _ => .ok { state with table := none }
  | '[' :: rest =>
    if rest.contains ']' then
      let keys := readKeys (rest.takeWhile (· != ']'))
      .ok { document := openAt keys state.document, table := some keys }
    else
      .error ("Expected ']' at the end of a table declaration (at line " ++ toString number ++
        ", column " ++ toString (line.length + 1) ++ ")")
  | cs =>
    match state.table, readScalar (cs.dropWhile (· != '=')).tail with
    | some keys, some value =>
      if cs.head? = some '#' then .ok state
      else
        let place := keys ++ readKeys (cs.takeWhile (· != '='))
        .ok { state with document := putAt value place state.document }
    | _, _ => .ok state

/-- Reads lines, of which the first has a number. -/
def readLines (number : Nat) (state : ManifestState) :
    List (List Char) → Except String ManifestState
  | [] => .ok state
  | line :: lines => do readLines (number + 1) (← readLine number state line) lines

/-- The manifest with a text. -/
def readManifest (text : String) : Manifest :=
  match readLines 1 {} (text.toList.splitOn '\n') with
  | .ok state => .document state.document
  | .error reason => .unreadable reason

end SemanticVersion
