import GraphSearch.Number.Notation
import GraphSearch.Text.Escaped

/-!
What can be wrong with a JSON text.

A text may stop too early, break the grammar, or hold a document of the wrong shape. Only the last
kind of fault has a message.
-/

namespace GraphSearch

namespace Json

/-- What stands where something else was expected. -/
inductive Found where
  | null
  | boolean (b : Bool)
  | integer (n : Int)
  | float (x : Binary64)
  | string (s : String)
  | sequence
  | map

def Found.text : Found → String
  | null => "null"
  | boolean b => "boolean `" ++ (if b then "true" else "false") ++ "`"
  | integer n => "integer `" ++ toString n ++ "`"
  | float x => "floating point `" ++ NumberStyle.json.text x ++ "`"
  | string s => "string " ++ escaped s
  | sequence => "sequence"
  | map => "map"

/-- How a document differs from the shape that is asked for. -/
inductive Mismatch where
  | invalidType (found : Found) (expected : String)
  | invalidValue (found : Found) (expected : String)
  | invalidLength (length : Nat) (expected : String)
  | unknownVariant (name : String) (variants : List String)
  | missingField (field : String)
  | duplicateField (field : String)
  /-- No alternative of a type without tags fits. -/
  | noAlternative (type : String)

/-- The names of the alternatives of a type, in words. -/
def variantsText (variants : List String) : String :=
  let quoted := variants.map fun v => "`" ++ v ++ "`"
  match quoted with
  | [] => "there are no variants"
  | [a] => "expected " ++ a
  | [a, b] => "expected " ++ a ++ " or " ++ b
  | names => "expected one of " ++ String.intercalate ", " names

def Mismatch.message : Mismatch → String
  | invalidType found expected => "invalid type: " ++ found.text ++ ", expected " ++ expected
  | invalidValue found expected => "invalid value: " ++ found.text ++ ", expected " ++ expected
  | invalidLength length expected =>
    "invalid length " ++ toString length ++ ", expected " ++ expected
  | unknownVariant name variants => "unknown variant `" ++ name ++ "`, " ++ variantsText variants
  | missingField field => "missing field `" ++ field ++ "`"
  | duplicateField field => "duplicate field `" ++ field ++ "`"
  | noAlternative type => "data did not match any variant of untagged enum " ++ type

/-- Why a text cannot be read. -/
inductive Fault where
  /-- The text stops before the document does. -/
  | unexpectedEnd
  /-- The text breaks the grammar, nests too deep or holds a number out of range. -/
  | malformed
  /-- The document has another shape than the one asked for. -/
  | mismatch (m : Mismatch)

end Json

end GraphSearch
