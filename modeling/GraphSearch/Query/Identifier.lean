/-!
Names inside a statement: quoted identifiers and parameter names.

A quoted identifier stands between backticks, and a backtick inside it is written twice. A parameter
name is a plain identifier made from the key of the property that it belongs to.
-/

namespace GraphSearch

namespace Identifier

def quotedChars : List Char → List Char
  | [] => []
  | c :: rest => if c = '\x60' then '\x60' :: '\x60' :: quotedChars rest else c :: quotedChars rest

def quoted (name : String) : String :=
  String.ofList ('\x60' :: quotedChars name.toList ++ ['\x60'])

/-- The variable that a statement binds the entity to. -/
def entity : String := "n"

def property (key : String) : String :=
  entity ++ "." ++ quoted key

/-- Whether a character may stand in a plain identifier. -/
def isPlain (c : Char) : Bool :=
  c.isAlphanum || c == '_'

/-- A plain identifier made from a key: other characters become underscores, and a letter goes in
front where a digit or nothing would come first. -/
def plain (key : String) : String :=
  let chars := key.toList.map fun c => if isPlain c then c else '_'
  match chars with
  | [] => "p"
  | c :: _ => if c.isDigit then String.ofList ('p' :: chars) else String.ofList chars

/-- The name that the first parameter of a key gets. -/
def parameterBase (key : String) : String :=
  plain key ++ "_param"

end Identifier

end GraphSearch
