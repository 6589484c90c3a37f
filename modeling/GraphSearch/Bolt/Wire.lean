import GraphSearch.Store.Record

/-!
Values as they travel to and from the graph server.
-/

namespace GraphSearch

inductive WireValue where
  | null
  | boolean (b : Bool)
  | integer (n : Int64)
  | float (x : Binary64)
  | string (s : String)
  | bytes (bs : List UInt8)
  | list (items : List WireValue)
  | map (entries : List (String × WireValue))
  | node (id : Int64) (labels : List String) (properties : List (String × WireValue))
  | relationship (id : Int64) (type : String) (start stop : Int64)
      (properties : List (String × WireValue))

namespace WireValue

mutual

/-- A search value on its way to the server: a date travels as its milliseconds. -/
def ofValue : Value → WireValue
  | .null => null
  | .boolean b => boolean b
  | .integer n => integer n
  | .float x => float x
  | .string s => string s
  | .date t => integer t.milliseconds
  | .list items => list (ofValues items)

def ofValues : List Value → List WireValue
  | [] => []
  | item :: rest => ofValue item :: ofValues rest

end

mutual

/-- A value from the server as a document. A node or a relationship is shown by its properties, and
a number that is not finite by null. -/
def toJson : WireValue → Json
  | null => .null
  | boolean b => .boolean b
  | integer n => .integer n.toInt
  | float x => if x.isFinite then .float x else .null
  | string s => .string s
  | bytes bs => .array (bs.map fun b => .integer b.toNat)
  | list items => .array (itemDocuments items)
  | map entries => .object (Dictionary.ofEntries (entryDocuments entries))
  | node _ _ properties => .object (Dictionary.ofEntries (entryDocuments properties))
  | relationship _ _ _ _ properties => .object (Dictionary.ofEntries (entryDocuments properties))

def itemDocuments : List WireValue → List Json
  | [] => []
  | item :: rest => item.toJson :: itemDocuments rest

def entryDocuments : List (String × WireValue) → List (String × Json)
  | [] => []
  | (key, value) :: rest => (key, value.toJson) :: entryDocuments rest

end

/-- The properties of an entity as search values. -/
def propertyValues (properties : List (String × WireValue)) : Dictionary Value :=
  Dictionary.ofEntries (properties.map fun entry => (entry.1, Value.ofDocument entry.2.toJson))

end WireValue

/-- The parameters of a statement on their way to the server. -/
def wireParameters (parameters : Dictionary Value) : Dictionary WireValue :=
  parameters.map fun entry => (entry.1, .ofValue entry.2)

end GraphSearch
