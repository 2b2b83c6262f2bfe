import WordCompletion.Toml.Basic

/-! # Building TOML tables

The statements of a document put values into a tree of tables. A table may be defined by a header
once, be implied by the headers of its subtables, or come about by dotted keys, and each way rules out
some of the others later: a table that a header has defined takes no dotted keys from outside and no
second header, and a key is never given twice.
-/

namespace WordCompletion.Toml

/-- How a table came about. -/
inductive TableKind where
  | header
  | implied
  | dotted
deriving DecidableEq, Repr

/-- A place in the tree of a document that is being read. -/
inductive Node where
  | value (toml : Toml)
  | table (kind : TableKind) (entries : List (String × Node))
  /-- The tables of an array of tables, each under a header of its own. -/
  | tables (items : List (List (String × Node)))
deriving Repr

/-- The entries of a table. -/
abbrev Entries := List (String × Node)

/-- Change the node under a key, or put a new one there, unless the change is refused. -/
def changeAt (key : String) (change : Option Node → Option Node) : Entries → Option Entries
  | [] => (change none).map fun node => [(key, node)]
  | (name, node) :: rest =>
    if name = key then (change (some node)).map fun next => (name, next) :: rest
    else (changeAt key change rest).map ((name, node) :: ·)

/-- Change the table at the end of a path. Missing tables on the way are made, an array of tables
leads to its last one, and a dotted path does not enter a table that a header has defined. -/
def changeUnder (dotted : Bool) (change : TableKind → Entries → Option Entries) :
    List String → TableKind → Entries → Option Entries
  | [], kind, entries => change kind entries
  | key :: path, _, entries =>
    let made : TableKind := if dotted then .dotted else .implied
    changeAt key (fun
      | none => (changeUnder dotted change path made []).map (.table made)
      | some (.value _) => none
      | some (.table kind inner) =>
        if dotted && kind == .header then none
        else (changeUnder dotted change path kind inner).map (.table kind)
      | some (.tables items) =>
        match items.getLast? with
        | some last =>
          (changeUnder dotted change path .header last).map fun next => .tables (items.dropLast ++ [next])
        | none => none) entries

/-- Give a key its value. A dotted path must end in a table of dotted keys, and the key must be new. -/
def assign (path : List String) (key : String) (value : Toml) (kind : TableKind)
    (entries : Entries) : Option Entries :=
  changeUnder true (fun kind inner =>
    if (kind == .dotted) == path.isEmpty then none
    else changeAt key (fun
      | none => some (.value value)
      | some _ => none) inner) path kind entries

/-- Define a table by a header, which an implied table may still get. -/
def defineTable (key : String) (entries : Entries) : Option Entries :=
  changeAt key (fun
    | none => some (.table .header [])
    | some (.table .implied inner) => some (.table .header inner)
    | _ => none) entries

/-- Add a table to an array of tables. -/
def addTable (key : String) (entries : Entries) : Option Entries :=
  changeAt key (fun
    | none => some (.tables [[]])
    | some (.tables items) => some (.tables (items ++ [[]]))
    | _ => none) entries

mutual

/-- The value at a place of the tree. -/
def Node.toToml : Node → Toml
  | .value toml => toml
  | .table _ entries => .table (entriesToToml entries)
  | .tables items => .array (tablesToToml items)

/-- The values of the entries of a table. -/
def entriesToToml : List (String × Node) → List (String × Toml)
  | [] => []
  | (key, node) :: rest => (key, node.toToml) :: entriesToToml rest

/-- The tables of an array of tables. -/
def tablesToToml : List (List (String × Node)) → List Toml
  | [] => []
  | entries :: rest => .table (entriesToToml entries) :: tablesToToml rest

end

/-- The table of dotted keys and their values, none of which may clash with another. -/
def inlineTable? (pairs : List (List String × Toml)) : Option Toml := do
  let entries ← pairs.foldlM (fun entries (keys, value) => do
    assign keys.dropLast (← keys.getLast?) value .header entries) []
  return .table (entriesToToml entries)

/-- A statement of a document; keys are given as paths. -/
inductive Statement where
  | assign (keys : List String) (value : Toml)
  | header (keys : List String)
  | arrayHeader (keys : List String)
deriving Repr

/-- A document so far: the path of the last header and the entries of the root. -/
structure Draft where
  path : List String
  entries : Entries
deriving Repr

/-- Take in one statement. -/
def Draft.add (draft : Draft) : Statement → Option Draft
  | .assign keys value => do
    let key ← keys.getLast?
    let entries ← changeUnder false (assign keys.dropLast key value) draft.path .header draft.entries
    return { draft with entries }
  | .header keys => do
    let key ← keys.getLast?
    let entries ← changeUnder false (fun _ inner => defineTable key inner) keys.dropLast .header
      draft.entries
    return { path := keys, entries }
  | .arrayHeader keys => do
    let key ← keys.getLast?
    let entries ← changeUnder false (fun _ inner => addTable key inner) keys.dropLast .header
      draft.entries
    return { path := keys, entries }

/-- The entries of the root table of a document. -/
def rootTable? (statements : List Statement) : Option (List (String × Toml)) := do
  let draft ← statements.foldlM Draft.add ⟨[], []⟩
  return entriesToToml draft.entries

end WordCompletion.Toml
