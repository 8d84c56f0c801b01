/-!
# Paths

A path is a list of names behind some leading slashes.  Reading a path drops empty names and single
dots, but keeps double dots, because a name in front of them may be a link to somewhere else.

* `Path` — the type, with `Path.ofText` and `Path.text`.
* `Path.child` — a path with a name added.
* `Path.resolve` — the absolute form of a path, in which double dots are followed.
-/

namespace SemanticVersion

/-- A path. -/
structure Path where
  /-- How many slashes lead it: none for a relative path, and else one or exactly two. -/
  slashes : Nat
  /-- The names. -/
  names : List String
deriving DecidableEq, Repr

namespace Path

/-- Three slashes or more lead a path like one. -/
def leadingSlashes (count : Nat) : Nat :=
  if count = 0 then 0 else if count = 2 then 2 else 1

/-- Reads a path. -/
def ofText (text : String) : Path where
  slashes := leadingSlashes (text.toList.takeWhile (· == '/')).length
  names := ((text.toList.splitOn '/').map String.ofList).filter fun name =>
    name != "" && name != "."

/-- The text of a path.  The path without any name is the current directory. -/
def text (path : Path) : String :=
  if path.slashes = 0 ∧ path.names = [] then "."
  else String.ofList (List.replicate path.slashes '/') ++ "/".intercalate path.names

/-- An absolute path with these names. -/
def absolute (names : List String) : Path where
  slashes := 1
  names

/-- A path with a name added. -/
def child (path : Path) (name : String) : Path :=
  { path with names := path.names ++ [name] }

/-- Follows names from a directory, where double dots lead one level up and the topmost directory is
above itself. -/
def follow (directory : List String) : List String → List String
  | [] => directory
  | name :: names =>
    if name = ".." then follow directory.dropLast names else follow (directory ++ [name]) names

/-- The names from the topmost directory to a path that is read in the working directory. -/
def resolve (working : List String) (path : Path) : List String :=
  follow (if path.slashes = 0 then working else []) path.names

end Path

end SemanticVersion
