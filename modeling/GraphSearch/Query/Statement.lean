import GraphSearch.Query.Basic

/-!
The statements of a query.

Each query has a statement that counts the matches and one that fetches a page of them. Both have
the same match and condition; only the fetch has an order and a window.
-/

namespace GraphSearch

/-- A label behind its colon, if there is one. -/
def labelText : Option String → String
  | some label => ":" ++ Identifier.quoted label
  | none => ""

def EntityKind.matchText (kind : EntityKind) (labels : Labels) : String :=
  match kind with
  | node => "MATCH (" ++ Identifier.entity ++ labelText labels.type ++ ")"
  | relationship =>
    "MATCH (s" ++ labelText labels.source ++ ")-[" ++ Identifier.entity ++ labelText labels.type ++
      "]->(t" ++ labelText labels.target ++ ")"

/-- The clause that returns the number of matches. -/
def countReturn : String :=
  " RETURN COUNT(" ++ Identifier.entity ++ ") AS count"

def fetchReturn : String :=
  " RETURN DISTINCT " ++ Identifier.entity

def SortOrder.render (s : SortOrder) : String :=
  let key := Identifier.property s.key
  " ORDER BY " ++
    (match s.mode with
      | .lexical => key
      | .numeric => "toFloat(" ++ key ++ ")") ++
    if s.descending then " DESC" else ""

namespace Query

def whereText (q : Query) : String :=
  if q.fragments.isEmpty then "" else " WHERE " ++ String.join (q.fragments.map Fragment.render)

/-- What all statements of a query begin with. -/
def matchText (q : Query) : String :=
  q.kind.matchText q.labels ++ q.whereText

def countStatement (q : Query) : String :=
  q.matchText ++ countReturn

/-- The order of the result, if it is asked for. -/
def orderText (q : Query) (sorted : Bool) : String :=
  if sorted then (q.sort.map SortOrder.render).getD "" else ""

def windowText (q : Query) : String :=
  (q.window.map Window.render).getD ""

/-- The statement that fetches the current page. -/
def fetchStatement (q : Query) (sorted : Bool) : String :=
  q.matchText ++ fetchReturn ++ q.orderText sorted ++ q.windowText

end Query

end GraphSearch
