import GraphSearch.Calendar.Timestamp
import GraphSearch.Number.Notation
import GraphSearch.Text.LowerCase

/-!
Search values: what a predicate compares a property with, and what a property holds.
-/

namespace GraphSearch

/-- A value that a statement can be given as a parameter. -/
inductive Value where
  | null
  | boolean (b : Bool)
  | integer (n : Int64)
  | float (x : Binary64)
  | string (s : String)
  | list (items : List Value)
  | date (t : Instant)
deriving Inhabited

namespace Value

def isNull : Value → Bool
  | null => true
  | _ => false

def string? : Value → Option String
  | string s => some s
  | _ => none

mutual

/-- The value as the graph store keeps it: a date becomes its milliseconds, also inside lists. -/
def stored : Value → Value
  | date t => integer t.milliseconds
  | list items => list (storedItems items)
  | null => null
  | boolean b => boolean b
  | integer n => integer n
  | float x => float x
  | string s => string s

def storedItems : List Value → List Value
  | [] => []
  | item :: rest => item.stored :: storedItems rest

end

mutual

def text : Value → String
  | null => "null"
  | boolean b => if b then "true" else "false"
  | integer n => toString n.toInt
  | float x => NumberStyle.plain.text x
  | string s => s
  | list items => "[" ++ String.intercalate ", " (itemTexts items) ++ "]"
  | date t => t.textWith "+00:00"

def itemTexts : List Value → List String
  | [] => []
  | item :: rest => item.text :: itemTexts rest

end

/-- The lower-cased text of the value, which comparisons that ignore case look for. -/
def lowered (v : Value) : Value :=
  string (lowerCase v.text)

end Value

end GraphSearch
