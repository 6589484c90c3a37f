import GraphSearch.Digest.Encoding
import GraphSearch.Value.Basic

/-!
The bytes of a value that go into a digest.
-/

namespace GraphSearch

namespace Value

open Encoding

mutual

/-- The position of the alternative, then its content; a list gives its length before its items. -/
def digestInput : Value → List UInt8
  | null => tag 0
  | boolean b => tag 1 ++ flag b
  | integer n => tag 2 ++ word n.toUInt64
  | float x => tag 3 ++ word x.bits
  | string s => tag 4 ++ Encoding.text s
  | list items => tag 5 ++ tag items.length ++ itemsDigestInput items
  | date t => tag 6 ++ word t.milliseconds.toUInt64

def itemsDigestInput : List Value → List UInt8
  | [] => []
  | item :: rest => item.digestInput ++ itemsDigestInput rest

end

end Value

end GraphSearch
