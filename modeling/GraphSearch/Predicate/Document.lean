import GraphSearch.Predicate.Names
import GraphSearch.Value.Document

/-!
Predicates as JSON documents.

The name, if there is one, comes first, then the occurrence, the kind, the fields of the condition,
and the order, if there is one.
-/

namespace GraphSearch

/-- The document of a member of a table of names. -/
def nameDocument {α : Type} [DecidableEq α] (names : List (String × α)) (x : α) : Json :=
  .string (nameIn names x)

/-- The document of a floating point field. -/
def floatDocument (x : Binary64) : Json :=
  (Value.float x).toJson

/-- A member that is written only if it is there. -/
def optionalMember (key : String) : Option Json → List (String × Json)
  | some j => [(key, j)]
  | none => []

def SortOrder.toJson (s : SortOrder) : Json :=
  .object [("key", .string s.key), ("sort_type", nameDocument SortMode.names s.mode),
    ("descending", .boolean s.descending)]

def Condition.members : Condition → List (String × Json)
  | comparison operation value =>
    [("operation", nameDocument Comparison.names operation), ("value", value.toJson)]
  | range low high includeLow includeHigh =>
    [("start", low.toJson), ("end", high.toJson), ("include_start", .boolean includeLow),
      ("include_end", .boolean includeHigh)]
  | fulltext value | exact value | array value => [("value", value.toJson)]
  | spatial latitude longitude distance =>
    [("latitude", floatDocument latitude), ("longitude", floatDocument longitude),
      ("distance", floatDocument distance)]
  | type name => [("type_name", .string name)]
  | .uuid id => [("uuid", .string id)]
  | relationship relType direction related =>
    [("rel_type", .string relType), ("direction", nameDocument Direction.names direction)] ++
      optionalMember "related" (related.map .string)
  | notEmpty | empty => []

namespace Predicate

/-- A predicate's members around the fields of its condition. -/
def membersAround (a : Attributes) (kind : PredicateKind) (fields : List (String × Json)) :
    List (String × Json) :=
  optionalMember "name" (a.name.map .string) ++
    [("occurrence", nameDocument Occurrence.names a.occurrence),
      ("kind", nameDocument PredicateKind.names kind)] ++
    fields ++ optionalMember "sort" (a.sort.map SortOrder.toJson)

mutual

def toJson : Predicate → Json
  | leaf a condition => .object (membersAround a condition.kind condition.members)
  | group a combinator children =>
    .object (membersAround a .group
      [("combinator", nameDocument Combinator.names combinator),
        ("children", .array (childDocuments children))])

def childDocuments : List Predicate → List Json
  | [] => []
  | child :: rest => child.toJson :: childDocuments rest

end

def text (p : Predicate) : String :=
  p.toJson.text

end Predicate

end GraphSearch
