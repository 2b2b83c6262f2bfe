import WordCompletion.Files

/-! # Trees of files

A tree of directories that holds files and links is one of the systems that a process can run on. A path is walked
part by part: every part but the last has to lead to a directory, an empty one and a single point stay there, two
points go up, and a link is walked from the directory that it stands in.
-/

namespace WordCompletion

/-- What stands at a place of a tree. -/
inductive Node where
  | file (entry : Entry)
  /-- A link with the path that it stands for. -/
  | link (target : String)

/-- Files and links by the names that lead to them from the root, and the directory that a process works in. -/
structure FileTree where
  workingDirectory : List String
  nodes : List (List String × Node)

/-- How a walk along a path ends. -/
inductive Walk where
  | found (entry : Entry)
  /-- It meets a link in a directory, and some parts of the path are left. -/
  | met (directory : List String) (target : String) (rest : List String)

namespace FileTree

/-- The largest number of bytes in a path. -/
def maxPathBytes : Nat := 4095

/-- The largest number of links on a path. -/
def maxLinks : Nat := 40

/-- A working directory that holds texts by their names. -/
def ofTexts (directory : List String) (texts : List (String × String)) : FileTree where
  workingDirectory := directory
  nodes := texts.map fun (name, text) => (directory ++ [name], .file (.regular (.contents (.ofText text))))

variable (tree : FileTree)

/-- A directory is on the way to a file or a link, or to the working directory. -/
def isDirectory (place : List String) : Bool :=
  (tree.workingDirectory :: tree.nodes.map (·.1.dropLast)).any place.isPrefixOf

/-- Walk from a directory up to the end of the path or the first link. -/
def walk (directory : List String) : List String → Walk
  | [] => .found .absent
  | part :: rest =>
    if part = "" ∨ part = "." then walk directory rest
    else if part = ".." then walk directory.dropLast rest
    else
      match tree.nodes.lookup (directory ++ [part]) with
      | some (.link target) => .met directory target rest
      | some (.file entry) => .found (if rest.isEmpty then entry else .absent)
      | none => if tree.isDirectory (directory ++ [part]) then walk (directory ++ [part]) rest else .found .absent

/-- Walk to the end of the path, over no more than some links. -/
def follow (directory parts : List String) : Nat → Entry
  | 0 => .absent
  | links + 1 =>
    match tree.walk directory parts with
    | .found entry => entry
    | .met directory target rest =>
      follow (if isRooted target then [] else directory) (pathParts target ++ rest) links

/-- What a path leads to. -/
def entry (path : String) : Entry :=
  if maxPathBytes < path.utf8ByteSize then .absent
  else tree.follow (if isRooted path then [] else tree.workingDirectory) (pathParts path) (maxLinks + 1)

/-- The files that a process finds in the tree. -/
def files : Files := ⟨some tree.workingDirectory, tree.entry⟩

end FileTree

end WordCompletion
