import GraphSearch.Bolt.Wire

/-!
Rows that the graph server returns.
-/

namespace GraphSearch

/-- The values of a row under their columns; of repeated columns the last one counts. -/
abbrev Row := List (String × WireValue)

/-- Why the server's answer cannot be used. -/
inductive BoltError where
  /-- The server could not run the statement. -/
  | driver (cause : String)
  | column (name : String)
  | unsupportedRow (column : String)
  | missingCount
deriving DecidableEq, Repr

def BoltError.message : BoltError → String
  | driver cause => "Bolt driver error: " ++ cause
  | column name => "Cannot read column '" ++ name ++ "':"
  | unsupportedRow place =>
    "Row holds neither a node nor a relationship in column '" ++ place ++ "'"
  | missingCount => "Count statement returned no rows"

/-- The failure of a search whose statement could not be answered. -/
def BoltError.toSearchError (e : BoltError) : SearchError :=
  .execution e.message

namespace Row

/-- The column that holds the entity of a row. -/
def entityColumn : String := "n"

def countColumn : String := "count"

def column? (row : Row) (name : String) : Option WireValue :=
  row.reverse.lookup name

/-- The record in a row. Entities have ids that are not negative. -/
def record (row : Row) : Except BoltError Record :=
  match row.column? entityColumn with
  | some (.node id labels properties) =>
    if 0 ≤ id.toInt then .ok (.node ⟨id, labels, WireValue.propertyValues properties⟩)
    else .error (.unsupportedRow entityColumn)
  | some (.relationship id type start stop properties) =>
    if 0 ≤ id.toInt ∧ 0 ≤ start.toInt ∧ 0 ≤ stop.toInt then
      .ok (.relationship ⟨id, type, start, stop, WireValue.propertyValues properties⟩)
    else .error (.unsupportedRow entityColumn)
  | _ => .error (.unsupportedRow entityColumn)

def count (row : Row) : Except BoltError UInt64 :=
  match row.column? countColumn with
  | some (.integer n) =>
    if 0 ≤ n.toInt then .ok (UInt64.ofNat n.toInt.toNat) else .error (.column countColumn)
  | _ => .error (.column countColumn)

end Row

end GraphSearch
