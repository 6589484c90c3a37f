import GraphSearch.Dictionary
import GraphSearch.Value.Document

/-!
What the graph store returns: nodes, relationships, and rows that are neither.
-/

namespace GraphSearch

structure Node where
  id : Int64
  labels : List String
  properties : Dictionary Value

structure Relationship where
  id : Int64
  type : String
  start : Int64
  stop : Int64
  properties : Dictionary Value

/-- One row of a result. -/
inductive Record where
  | node (n : Node)
  | relationship (r : Relationship)
  | map (entries : Dictionary Value)

/-- Why a search fails. -/
inductive SearchError where
  /-- The store could not run a statement. -/
  | execution (cause : String)
  /-- There is no further result. -/
  | exhausted
  /-- A record is not what the caller wants. -/
  | mapping (reason : String)
  | config (reason : String)
deriving DecidableEq, Repr

def SearchError.message : SearchError → String
  | execution cause => "Query execution failed: " ++ cause
  | exhausted => "Result stream exhausted"
  | mapping reason => "Cannot map record: " ++ reason
  | config reason => "Configuration error: " ++ reason

namespace Record

def kindName : Record → String
  | node _ => "node"
  | relationship _ => "relationship"
  | map _ => "map"

def asNode : Record → Except SearchError Node
  | node n => .ok n
  | r => .error (.mapping ("expected a node, got " ++ r.kindName))

def asRelationship : Record → Except SearchError Relationship
  | relationship r => .ok r
  | r => .error (.mapping ("expected a relationship, got " ++ r.kindName))

def propertiesDocument (properties : Dictionary Value) : List (String × Json) :=
  properties.map fun entry => (entry.1, entry.2.toJson)

/-- The document of a record: its kind, then its parts. -/
def toJson (r : Record) : Json :=
  .object (("kind", .string r.kindName) ::
    match r with
    | node n =>
      [("id", .integer n.id.toInt), ("labels", .array (n.labels.map .string)),
        ("properties", .object (propertiesDocument n.properties))]
    | relationship r =>
      [("id", .integer r.id.toInt), ("rel_type", .string r.type),
        ("start_id", .integer r.start.toInt), ("end_id", .integer r.stop.toInt),
        ("properties", .object (propertiesDocument r.properties))]
    | map entries => propertiesDocument entries)

end Record

end GraphSearch
