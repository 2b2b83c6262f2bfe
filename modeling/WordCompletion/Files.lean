import WordCompletion.Text.Lines

/-! # Files

What a process finds under a path is the answer of the operating system, and here it is any function of the path:
links, permissions and limits are the business of the system. A file stays as it is while the process runs; only the
standard input is used up by reading it. A settings file is looked for in the working directory and then in every
directory above it, only a regular file counts, and reports name it by the way from the working directory if that
is the shorter one.
-/

namespace WordCompletion

/-- What comes of reading a file. -/
inductive Reading where
  | contents (bytes : Bytes)
  /-- The file cannot be read, for the reason that the system reports. -/
  | failed (report : String)
deriving DecidableEq, Repr

/-- What the system finds under a path. -/
inductive Entry where
  /-- A regular file, whether it can be read or not. -/
  | regular (reading : Reading)
  /-- Something else that gives the same bytes whenever it is read to its end, such as the null device. -/
  | special (contents : Bytes)
  /-- The standard input, if it is a stream; one that was redirected from a regular file is that file. -/
  | input
  /-- Nothing that can be read. -/
  | absent
deriving DecidableEq, Repr

/-- The files that a process finds. -/
structure Files where
  /-- The names that lead from the root to the working directory, if there still is one. -/
  workingDirectory : Option (List String)
  entry : String → Entry

/-! ## Paths -/

/-- The pieces between slashes. -/
def slashPieces : List Char → List (List Char)
  | [] => [[]]
  | '/' :: rest => [] :: slashPieces rest
  | char :: rest =>
    match slashPieces rest with
    | [] => [[char]]
    | piece :: pieces => (char :: piece) :: pieces

/-- The parts of a path between its slashes. -/
def pathParts (path : String) : List String := (slashPieces path.toList).map String.ofList

/-- The names on a path, two points among them. -/
def pathNames (path : String) : List String := (pathParts path).filter fun part => part ≠ "" ∧ part ≠ "."

/-- A path starts at the root. -/
def isRooted (path : String) : Bool := path.toList.head? = some '/'

/-- The path that a relative path has below the directory to which some names lead. -/
def pathBelow (names : List String) (path : String) : String :=
  String.join (names.map ("/" ++ ·)) ++ "/" ++ path

/-- The names that lead to a directory and to those above it, up to the root. -/
def ancestors (names : List String) : List (List String) :=
  (List.range (names.length + 1)).map fun up => names.take (names.length - up)

/-- What two lists have after their longest common beginning. -/
def afterCommon : List String → List String → List String × List String
  | first :: rest, second :: others =>
    if first = second then afterCommon rest others else (first :: rest, second :: others)
  | rest, others => (rest, others)

namespace Files

variable (files : Files)

/-! ## Corpora -/

/-- What is read of a path that does not lead to the standard input. -/
def contents? (path : String) : Option Bytes :=
  match files.entry path with
  | .regular (.contents bytes) | .special bytes => some bytes
  | _ => none

/-- Read what a path leads to, with so much of the standard input left to read: the contents, and what is left of
the input after it. -/
def read? (path : String) (left : Bytes) : Option (Bytes × Bytes) :=
  match files.entry path with
  | .input => some (left, [])
  | _ => (files.contents? path).map fun contents => (contents, left)

/-! ## Settings files -/

/-- The paths under which a settings file is looked for, in this order. -/
def searchPaths (path : String) : List String :=
  if isRooted path then [path]
  else (files.workingDirectory.elim [] ancestors).map fun names => pathBelow names path

/-- The regular file under a path. -/
def regular? (path : String) : Option Reading :=
  match files.entry path with
  | .regular reading => some reading
  | _ => none

/-- The settings file under a path: the path under which it is found, and what comes of reading it. -/
def find? (path : String) : Option (String × Reading) :=
  (files.searchPaths path).findSome? fun place => (files.regular? place).map fun reading => (place, reading)

/-- The name of a settings file in reports: the way to it from the working directory, if that is shorter than the
path under which it was found, in which the root counts as well. -/
def nameOf (place : String) : String :=
  match files.workingDirectory with
  | none => place
  | some directory =>
    let (down, up) := afterCommon (pathNames place) directory
    let way := up.map (fun _ => "..") ++ down
    if way.length ≤ (pathNames place).length then "/".intercalate way else place

end Files

end WordCompletion
