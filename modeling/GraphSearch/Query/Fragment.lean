import GraphSearch.Query.Identifier

/-!
The pieces of a condition: keywords, parentheses and clauses.
-/

namespace GraphSearch

/-- A piece of a composite clause. -/
inductive Part where
  | text (s : String)
  /-- The name of a parameter. -/
  | parameter (name : String)
deriving DecidableEq, Repr

inductive Clause where
  /-- An operator between a property, or another expression, and a parameter. Without a parameter
  the right side is `NULL`. -/
  | simple (key operator : String) (parameter : Option String) (ignoreCase isProperty : Bool)
  | composite (parts : List Part)
deriving DecidableEq, Repr

inductive Fragment where
  | and
  | or
  | not
  | opening
  | closing
  | clause (c : Clause)
deriving DecidableEq, Repr

def Part.render : Part → String
  | text s => s
  | parameter name => "$" ++ name

namespace Clause

def leftSide (key : String) (ignoreCase isProperty : Bool) : String :=
  let expression := if isProperty then Identifier.property key else key
  if ignoreCase then "toLower(" ++ expression ++ ")" else expression

def rightSide : Option String → String
  | some name => "$" ++ name
  | none => "NULL"

def render : Clause → String
  | simple key operator parameter ignoreCase isProperty =>
    leftSide key ignoreCase isProperty ++ " " ++ operator ++ " " ++ rightSide parameter
  | composite parts => String.join (parts.map Part.render)

end Clause

def Fragment.render : Fragment → String
  | and => " AND "
  | or => " OR "
  | not => "NOT "
  | opening => "("
  | closing => ")"
  | clause c => c.render

end GraphSearch
