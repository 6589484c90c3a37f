import GraphSearch.Dictionary
import GraphSearch.Number.Binary64

/-!
JSON documents.

The members of an object keep their order and may repeat a key: what a repetition means is decided
where a document is decoded.
-/

namespace GraphSearch

/-- A JSON document. -/
inductive Json where
  | null
  | boolean (b : Bool)
  | integer (n : Int)
  | float (x : Binary64)
  | string (s : String)
  | array (items : List Json)
  | object (members : List (String × Json))
deriving Inhabited

namespace Json

mutual

/-- The document with the members of each object sorted by key, the last of equal keys kept. -/
def sorted : Json → Json
  | array items => array (sortedItems items)
  | object members => object (Dictionary.ofEntries (sortedMembers members))
  | null => null
  | boolean b => boolean b
  | integer n => integer n
  | float x => float x
  | string s => string s

def sortedItems : List Json → List Json
  | [] => []
  | item :: rest => item.sorted :: sortedItems rest

def sortedMembers : List (String × Json) → List (String × Json)
  | [] => []
  | (key, value) :: rest => (key, value.sorted) :: sortedMembers rest

end

def member? (key : String) : Json → Option Json
  | object members => members.lookup key
  | _ => none

end Json

end GraphSearch
