/-!
Byte encodings of the things a digest is taken of.

Numbers have a fixed width and start with their least significant byte. A text is its UTF-8 bytes
and a closing byte that no UTF-8 text contains, so that a text is never the beginning of another.
-/

namespace GraphSearch

namespace Encoding

/-- The `width` least significant bytes of a number, from the least significant one. -/
def littleEndian : Nat → Nat → List UInt8
  | 0, _ => []
  | width + 1, n => UInt8.ofNat n :: littleEndian width (n / 256)

def word (n : UInt64) : List UInt8 :=
  littleEndian 8 n.toNat

/-- The position of an alternative in its type, or the presence of an optional part. -/
def tag (n : Nat) : List UInt8 :=
  littleEndian 8 n

def flag (b : Bool) : List UInt8 :=
  [if b then 1 else 0]

def text (s : String) : List UInt8 :=
  s.toList.flatMap String.utf8EncodeChar ++ [0xff]

/-- An optional part, preceded by whether it is there. -/
def optional {α : Type} (encode : α → List UInt8) : Option α → List UInt8
  | none => tag 0
  | some x => tag 1 ++ encode x

end Encoding

end GraphSearch
