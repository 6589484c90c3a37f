import GraphSearch.Json.Basic
import GraphSearch.Json.Fault

/-!
Decoding documents that have been read as a whole.
-/

namespace GraphSearch

namespace Json

def found : Json → Found
  | null => .null
  | boolean b => .boolean b
  | integer n => .integer n
  | float x => .float x
  | string s => .string s
  | array _ => .sequence
  | object _ => .map

/-- Refuses a document that is not what is expected. -/
def refuse {α : Type} (expected : String) (j : Json) : Except Mismatch α :=
  .error (.invalidType j.found expected)

def asString : Json → Except Mismatch String
  | string s => .ok s
  | j => j.refuse "a string"

def asBoolean : Json → Except Mismatch Bool
  | boolean b => .ok b
  | j => j.refuse "a boolean"

def asFloat : Json → Except Mismatch Binary64
  | float x => .ok x
  | integer n => .ok (.ofInt n)
  | j => j.refuse "f64"

def asOptional {α : Type} (decode : Json → Except Mismatch α) : Json → Except Mismatch (Option α)
  | null => .ok none
  | j => some <$> decode j

def variantNamed {α : Type} (variants : List (String × α)) (name : String) : Except Mismatch α :=
  match variants.lookup name with
  | some x => .ok x
  | none => .error (.unknownVariant name (variants.map Prod.fst))

/-- One of the variants, given by its name or by an object with its name and a null or an empty
object. -/
def asVariant {α : Type} (variants : List (String × α)) : Json → Except Mismatch α
  | string name => variantNamed variants name
  | object [(name, value)] => do
    let x ← variantNamed variants name
    match value with
    | null | object [] => return x
    | j => j.refuse "unit"
  | object _ => .error (.invalidValue .map "map with a single key")
  | j => j.refuse "string or map"

/-- One of the variants, given by its name or by its position. -/
def asTag {α : Type} (variants : List (String × α)) : Json → Except Mismatch α
  | string name => variantNamed variants name
  | integer n =>
    if n < 0 then (integer n).refuse "variant identifier"
    else match variants[n.toNat]? with
      | some (_, x) => .ok x
      | none =>
        .error (.invalidValue (.integer n) ("variant index 0 <= i < " ++ toString variants.length))
  | j => j.refuse "variant identifier"

/-- The value of a field that has not been given before. -/
def once {α : Type} (field : String) (held : Option α) (decode : Except Mismatch α) :
    Except Mismatch (Option α) :=
  if held.isSome then .error (.duplicateField field) else some <$> decode

/-- The value of a field that must be given. -/
def required {α : Type} (field : String) : Option α → Except Mismatch α
  | some x => .ok x
  | none => .error (.missingField field)

/-- Refuses items beyond the `count` that a record has. -/
def refuseExtra (count length : Nat) : Except Mismatch Unit :=
  if length ≤ count then .ok ()
  else .error (.invalidLength length
    (toString count ++ (if count = 1 then " element" else " elements") ++ " in sequence"))

end Json

end GraphSearch
