import SemanticVersion.Project.Path
import SemanticVersion.Value

/-!
# The part of a file system that settings depend on

Settings depend on which directories exist and on which of them hold a manifest, and on nothing
else.  A directory is given by the names that lead to it from the topmost directory.

* `Manifest` — a manifest: its document, or why it has none.
* `FileTree` — directories and manifests.
* `FileTree.isDirectory`, `FileTree.isManifest` — what is where.
* `FileTree.enter` — the directory that a path leads to.
-/

namespace SemanticVersion

/-- The content of a manifest. -/
inductive Manifest where
  /-- The document that it holds. -/
  | document (value : Value)
  /-- It holds no document, for a reason. -/
  | unreadable (reason : String)

/-- The name of every manifest. -/
def manifestName : String := "pyproject.toml"

/-- Directories and manifests. -/
structure FileTree where
  /-- Directories that exist.  Everything above them exists too. -/
  directories : List (List String)
  /-- The manifests by the directory that holds them.  Such a directory exists. -/
  manifests : List (List String × Manifest)

namespace FileTree

/-- Whether a directory exists.  The topmost one always does. -/
def isDirectory (tree : FileTree) (directory : List String) : Bool :=
  directory.isEmpty || tree.directories.any directory.isPrefixOf ||
    tree.manifests.any fun (holder, _) => directory.isPrefixOf holder

/-- The manifest in a directory. -/
def manifest? (tree : FileTree) (directory : List String) : Option Manifest :=
  tree.manifests.lookup directory

/-- Whether a directory holds a manifest. -/
def isManifest (tree : FileTree) (directory : List String) : Bool :=
  (tree.manifest? directory).isSome

/-- Follows names from a directory through existing directories.  The names in front of double dots
have to exist, although they are left again. -/
def enterNames (tree : FileTree) (directory : List String) : List String → Option (List String)
  | [] => some directory
  | name :: names =>
    if name = ".." then tree.enterNames directory.dropLast names
    else if tree.isDirectory (directory ++ [name]) then tree.enterNames (directory ++ [name]) names
    else none

/-- The existing directory that a path leads to. -/
def enter (tree : FileTree) (working : List String) (path : Path) : Option (List String) :=
  tree.enterNames (if path.slashes = 0 then working else []) path.names

/-- The directory and the manifest that a path leads to, if it leads to both. -/
def manifestAt (tree : FileTree) (working : List String) (path : Path) : Option Manifest := do
  tree.manifest? (← tree.enter working path)

end FileTree

end SemanticVersion
