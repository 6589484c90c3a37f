import GraphSearch.Json.Basic
import GraphSearch.Number.Notation

/-!
JSON documents as text, on one line without blanks or indented over several lines.
-/

namespace GraphSearch

namespace Json

/-- One character between the quotes of a JSON string. -/
def stringChar (c : Char) : List Char :=
  match c with
  | '"' => ['\\', '"']
  | '\\' => ['\\', '\\']
  | '\x08' => ['\\', 'b']
  | '\x0c' => ['\\', 'f']
  | '\n' => ['\\', 'n']
  | '\r' => ['\\', 'r']
  | '\t' => ['\\', 't']
  | c =>
    if c.toNat < 16 then ['\\', 'u', '0', '0', '0'] ++ Nat.toDigits 16 c.toNat
    else if c.toNat < 32 then ['\\', 'u', '0', '0'] ++ Nat.toDigits 16 c.toNat
    else [c]

def stringText (s : String) : List Char :=
  '"' :: s.toList.flatMap stringChar ++ ['"']

/-- A finite number; JSON has no form for the others, and `null` stands for them. -/
def floatText (x : Binary64) : List Char :=
  if x.isFinite then (NumberStyle.json.text x).toList else "null".toList

mutual

/-- The characters of a document on one line. -/
def chars : Json → List Char
  | null => "null".toList
  | boolean b => if b then "true".toList else "false".toList
  | integer n => (toString n).toList
  | float x => floatText x
  | string s => stringText s
  | array items => '[' :: itemChars items ++ [']']
  | object members => '{' :: memberChars members ++ ['}']

def itemChars : List Json → List Char
  | [] => []
  | [item] => item.chars
  | item :: rest => item.chars ++ ',' :: itemChars rest

def memberChars : List (String × Json) → List Char
  | [] => []
  | [(key, value)] => stringText key ++ ':' :: value.chars
  | (key, value) :: rest => stringText key ++ ':' :: value.chars ++ ',' :: memberChars rest

end

def text (j : Json) : String :=
  String.ofList j.chars

def indentation (depth : Nat) : List Char :=
  '\n' :: List.replicate (2 * depth) ' '

mutual

/-- The characters of a document over several lines, nested `depth` deep. -/
def indentedChars (depth : Nat) : Json → List Char
  | array [] => ['[', ']']
  | object [] => ['{', '}']
  | array items => '[' :: indentedItems (depth + 1) items ++ indentation depth ++ [']']
  | object members => '{' :: indentedMembers (depth + 1) members ++ indentation depth ++ ['}']
  | null => chars null
  | boolean b => chars (boolean b)
  | integer n => chars (integer n)
  | float x => chars (float x)
  | string s => chars (string s)

def indentedItems (depth : Nat) : List Json → List Char
  | [] => []
  | [item] => indentation depth ++ item.indentedChars depth
  | item :: rest => indentation depth ++ item.indentedChars depth ++ ',' :: indentedItems depth rest

def indentedMembers (depth : Nat) : List (String × Json) → List Char
  | [] => []
  | [(key, value)] => indentation depth ++ stringText key ++ [':', ' '] ++ value.indentedChars depth
  | (key, value) :: rest =>
    indentation depth ++ stringText key ++ [':', ' '] ++ value.indentedChars depth ++
      ',' :: indentedMembers depth rest

end

/-- The document over several lines, two blanks for each level. -/
def indentedText (j : Json) : String :=
  String.ofList (j.indentedChars 0)

end Json

end GraphSearch
