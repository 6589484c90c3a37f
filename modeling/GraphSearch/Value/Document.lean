import GraphSearch.Json.Decode
import GraphSearch.Json.Text
import GraphSearch.Value.Basic

/-!
Values as JSON documents.

Scalars and lists are written as themselves, and a date as an object with the one member `$date`, so
that it is never confused with a string.
-/

namespace GraphSearch

namespace Value

def dateKey : String := "$date"

mutual

/-- The document of a value. A number that is not finite has no document of its own and is written
as null. -/
def toJson : Value → Json
  | null => .null
  | boolean b => .boolean b
  | integer n => .integer n.toInt
  | float x => if x.isFinite then .float x else .null
  | string s => .string s
  | list items => .array (itemDocuments items)
  | date t => .object [(dateKey, .string (t.textWith "Z"))]

def itemDocuments : List Value → List Json
  | [] => []
  | item :: rest => item.toJson :: itemDocuments rest

end

/-- An integer that fits into sixty-four bits with a sign, or else the nearest floating point
number. -/
def ofInteger (n : Int) : Value :=
  if Int64.minValue.toInt ≤ n ∧ n ≤ Int64.maxValue.toInt then integer (.ofInt n) else float (.ofInt n)

/-- The date of an object that holds one, exactly once; other members do not matter. -/
def dateOfMembers? (members : List (String × Json)) : Option Instant :=
  match members.filter fun member => member.1 = dateKey with
  | [(_, .string s)] => Instant.ofText? s
  | _ => none

mutual

/-- The value of a document, if it has one. -/
def ofJson? : Json → Option Value
  | .null => some null
  | .boolean b => some (boolean b)
  | .integer n => some (ofInteger n)
  | .float x => some (float x)
  | .string s => some (string s)
  | .array items => (ofItems? items).map list
  | .object members => (dateOfMembers? members).map date

/-- The values of all the items, if each has one. -/
def ofItems? : List Json → Option (List Value)
  | [] => some []
  | item :: rest => do
    let v ← ofJson? item
    return v :: (← ofItems? rest)

end

/-- The value of a document, or the reason why it has none. -/
def decode (j : Json) : Except Json.Mismatch Value :=
  match ofJson? j with
  | some v => .ok v
  | none => .error (.noAlternative "Value")

/-- The value of a document as far as values reach: a document with an object in it that is no date
is kept as its text. -/
def ofDocument (j : Json) : Value :=
  (ofJson? j).getD (string j.text)

end Value

end GraphSearch
