import GraphSearch.Toml.Reader

/-!
Reading TOML documents: lines that open a table or put a value into the open one.

A table is defined once, by its header or by the keys of its entries, and a header may add a table
inside one that was only mentioned on the way to another.
-/

namespace GraphSearch

namespace Toml

/-- How a table came about. -/
inductive Origin where
  /-- By its header. -/
  | header
  /-- On the way to a table with a header. -/
  | passed
  /-- By a key of several parts. -/
  | dotted
deriving DecidableEq

/-- What a document holds while it is read. -/
inductive Draft where
  | value (v : Toml)
  | table (origin : Origin) (entries : List (String × Draft))
  /-- Tables under one header, the last of them first. -/
  | tables (last : List (String × Draft)) (before : List (List (String × Draft)))

/-- The entries of a table. -/
abbrev Entries := List (String × Draft)

/-- The entries with one entry replaced or added. -/
def Entries.set (entries : Entries) (key : String) (d : Draft) : Entries :=
  if (entries.lookup key).isSome then
    entries.map fun entry => if entry.1 = key then (key, d) else entry
  else entries ++ [(key, d)]

/-- Changes the entries of the table at a path of headers; tables on the way are made. -/
def changeAt (path : List String) (change : Entries → Option Entries) (entries : Entries) :
    Option Entries :=
  match path with
  | [] => change entries
  | k :: path =>
    match entries.lookup k with
    | none => (changeAt path change []).map fun inner => entries.set k (.table .passed inner)
    | some (.table origin inner) =>
      (changeAt path change inner).map fun inner => entries.set k (.table origin inner)
    | some (.tables last before) =>
      (changeAt path change last).map fun last => entries.set k (.tables last before)
    | some (.value _) => none

def openTable (key : String) (entries : Entries) : Option Entries :=
  match entries.lookup key with
  | none => some (entries.set key (.table .header []))
  | some (.table .passed inner) => some (entries.set key (.table .header inner))
  | some _ => none

/-- Opens another table under a header that may come again. -/
def openNext (key : String) (entries : Entries) : Option Entries :=
  match entries.lookup key with
  | none => some (entries.set key (.tables [] []))
  | some (.tables last before) => some (entries.set key (.tables [] (last :: before)))
  | some _ => none

/-- Puts a value into a table, under a key of one or more parts. The table that the value goes into
has been made by such keys alone; tables further out need only be without a header. -/
def putValue (path : List String) (value : Toml) (entries : Entries) : Option Entries :=
  match path with
  | [] => none
  | [k] => if (entries.lookup k).isSome then none else some (entries.set k (.value value))
  | k :: path =>
    match entries.lookup k with
    | none => (putValue path value []).map fun inner => entries.set k (.table .dotted inner)
    | some (.table .header _) | some (.value _) => none
    | some (.table .dotted inner) =>
      (putValue path value inner).map fun inner => entries.set k (.table .dotted inner)
    | some (.table .passed inner) =>
      if path.length = 1 then none
      else (putValue path value inner).map fun inner => entries.set k (.table .passed inner)
    | some (.tables last before) =>
      if path.length = 1 then none
      else (putValue path value last).map fun last => entries.set k (.tables last before)

mutual

def Draft.finish : Draft → Toml
  | .value v => v
  | .table _ entries => .table (finishEntries entries)
  | .tables last before => .array (finishTables before [.table (finishEntries last)])

def finishEntries : List (String × Draft) → List (String × Toml)
  | [] => []
  | (key, d) :: rest => (key, d.finish) :: finishEntries rest

/-- The tables under one header, the last of them first, in front of those that come after. -/
def finishTables : List (List (String × Draft)) → List Toml → List Toml
  | [], after => after
  | entries :: rest, after => finishTables rest (.table (finishEntries entries) :: after)

end

namespace Reader

/-- The key of a header up to its closing bracket. -/
def headerKey : Reader (List String) := do
  let path ← key
  mark ']'
  return path

/-- Reads one line: the path of the open table and the document change with it. -/
def line (path : List String) (document : Entries) : Reader (List String × Entries) := do
  blanks
  match ← get with
  | '[' :: '[' :: rest =>
    set rest
    let header ← headerKey
    mark ']'
    restOfLine
    let document ← StateT.lift
      (changeAt header.dropLast (openNext (header.getLast?.getD "")) document)
    return (header, document)
  | '[' :: rest =>
    set rest
    let header ← headerKey
    restOfLine
    let document ← StateT.lift
      (changeAt header.dropLast (openTable (header.getLast?.getD "")) document)
    return (header, document)
  | '#' :: _ | '\n' :: _ | '\r' :: _ | [] =>
    restOfLine
    return (path, document)
  | _ =>
    let k ← key
    mark '='
    blanks
    let v ← value maximalDepth
    restOfLine
    let document ← StateT.lift (changeAt path (putValue k v) document)
    return (path, document)

/-- Reads all lines; there are fewer of them than `fuel`. -/
def lines : (fuel : Nat) → (path : List String) → (document : Entries) → Reader Entries
  | 0, _, _ => failure
  | fuel + 1, path, document => do
    if (← get).isEmpty then return document
    let (path, document) ← line path document
    lines fuel path document

end Reader

/-- The document that a text writes, if it writes one. -/
def parse? (text : String) : Option Toml := do
  let chars := match text.toList with
    | '\ufeff' :: rest => rest
    | chars => chars
  let (document, _) ← Reader.lines (chars.length + 1) [] [] chars
  return .table (finishEntries document)

end Toml

end GraphSearch
