/-!
A 64-bit keyed digest of a byte sequence: one compression round for each word, three closing rounds,
and a key of zeros.
-/

namespace GraphSearch

namespace SipHash

/-- The four words of the running state. -/
structure State where
  v0 : UInt64
  v1 : UInt64
  v2 : UInt64
  v3 : UInt64

def rotateLeft (x : UInt64) (amount : UInt64) : UInt64 :=
  (x <<< amount) ||| (x >>> (64 - amount))

/-- The state before any input, for the key of zeros. -/
def State.start : State where
  v0 := 0x736f6d6570736575
  v1 := 0x646f72616e646f6d
  v2 := 0x6c7967656e657261
  v3 := 0x7465646279746573

def State.round (s : State) : State :=
  let v0 := s.v0 + s.v1
  let v1 := rotateLeft s.v1 13 ^^^ v0
  let v0 := rotateLeft v0 32
  let v2 := s.v2 + s.v3
  let v3 := rotateLeft s.v3 16 ^^^ v2
  let v0 := v0 + v3
  let v3 := rotateLeft v3 21 ^^^ v0
  let v2 := v2 + v1
  let v1 := rotateLeft v1 17 ^^^ v2
  let v2 := rotateLeft v2 32
  ⟨v0, v1, v2, v3⟩

def State.absorb (s : State) (word : UInt64) : State :=
  let mixed := { s with v3 := s.v3 ^^^ word }.round
  { mixed with v0 := mixed.v0 ^^^ word }

/-- The word whose bytes are given from the least significant one. -/
def wordOfBytes : List UInt8 → UInt64
  | [] => 0
  | b :: rest => b.toUInt64 ||| (wordOfBytes rest <<< 8)

/-- Takes in the whole words of the input, then one word of the bytes left over with the input's
length, modulo 256, as its top byte. -/
def State.absorbAll (s : State) (length : Nat) : List UInt8 → State
  | b0 :: b1 :: b2 :: b3 :: b4 :: b5 :: b6 :: b7 :: rest =>
    (s.absorb (wordOfBytes [b0, b1, b2, b3, b4, b5, b6, b7])).absorbAll length rest
  | rest => s.absorb (wordOfBytes rest ||| (UInt64.ofNat length <<< 56))

def State.finish (s : State) : UInt64 :=
  let closed := { s with v2 := s.v2 ^^^ 0xff }.round.round.round
  closed.v0 ^^^ closed.v1 ^^^ closed.v2 ^^^ closed.v3

end SipHash

def sipHash (bytes : List UInt8) : UInt64 :=
  (SipHash.State.start.absorbAll bytes.length bytes).finish

def wordText (word : UInt64) : String :=
  let digits := Nat.toDigits 16 word.toNat
  String.ofList (List.replicate (16 - digits.length) '0' ++ digits)

end GraphSearch
