import GraphSearch.Query.Identifier
import GraphSearch.Clause.Builder

/-!
The indexes that the graph store should have: on the uuid and on the type of each label.
-/

namespace GraphSearch

/-- The name that the indexes of a label begin with. -/
def indexPrefix (label : String) : String :=
  String.ofList (label.toList.map fun c => if c.isAlphanum then c.toLower else '_')

/-- The statement that creates the index of a label on a key, unless it is there. -/
def createIndex (label key : String) : String :=
  "CREATE INDEX " ++ indexPrefix label ++ "_" ++ key ++ " IF NOT EXISTS FOR (n:" ++
    Identifier.quoted label ++ ") ON (n." ++ Identifier.quoted key ++ ")"

/-- The statements for the indexes of all labels. -/
def schemaStatements (labels : List String) : List String :=
  labels.flatMap fun label => [createIndex label uuidKey, createIndex label typeKey]

end GraphSearch
