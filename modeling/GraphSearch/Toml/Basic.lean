/-!
TOML documents.

Only what settings are made of is kept in full: numbers with a fraction and moments are kept as they
are written.
-/

namespace GraphSearch

/-- A value of a TOML document. -/
inductive Toml where
  | string (s : String)
  | integer (n : Int)
  | boolean (b : Bool)
  /-- A number with a fraction or an exponent, as it is written. -/
  | float (text : String)
  /-- A date, a time or both, as it is written. -/
  | moment (text : String)
  | array (items : List Toml)
  | table (entries : List (String × Toml))

namespace Toml

def entry? (key : String) : Toml → Option Toml
  | table entries => entries.lookup key
  | _ => none

end Toml

end GraphSearch
