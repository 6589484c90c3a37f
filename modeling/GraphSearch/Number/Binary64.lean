/-!
64-bit floating point numbers, given by their bits.

A number is kept as the word that represents it, so that two numbers are equal exactly when their
bits are, and every rounding below is exact arithmetic on naturals.
-/

namespace GraphSearch

/-- A 64-bit floating point number: one sign bit, eleven exponent bits, fifty-two fraction bits. -/
structure Binary64 where
  bits : UInt64
deriving DecidableEq, Repr, Inhabited

namespace Binary64

/-- Whether the sign bit is set; minus zero and some NaNs are negative too. -/
def negative (x : Binary64) : Bool :=
  x.bits >>> 63 == 1

def exponentField (x : Binary64) : Nat :=
  ((x.bits >>> 52) &&& 0x7FF).toNat

def fractionField (x : Binary64) : Nat :=
  (x.bits &&& 0xFFFFFFFFFFFFF).toNat

def isFinite (x : Binary64) : Bool :=
  x.exponentField != 0x7FF

def isNaN (x : Binary64) : Bool :=
  x.exponentField == 0x7FF && x.fractionField != 0

/-- Whether the number is a zero of either sign. -/
def isZero (x : Binary64) : Bool :=
  x.bits <<< 1 == 0

/-- The magnitude of a finite number is `mantissa * 2 ^ scale`. -/
def mantissa (x : Binary64) : Nat :=
  if x.exponentField = 0 then x.fractionField else Nat.pow 2 52 + x.fractionField

/-- The magnitude of a finite number is `mantissa * 2 ^ scale`. -/
def scale (x : Binary64) : Int :=
  if x.exponentField = 0 then -1074 else x.exponentField - 1075

/-- Whether the gap to the next smaller magnitude is half the gap to the next larger one. -/
def narrowBelow (x : Binary64) : Bool :=
  x.fractionField == 0 && x.exponentField > 1

/-- The word with the given sign whose other sixty-three bits are `magnitude`. -/
def ofMagnitude (negative : Bool) (magnitude : Nat) : Binary64 :=
  ⟨UInt64.ofNat (magnitude + if negative then Nat.pow 2 63 else 0)⟩

def infinityMagnitude : Nat :=
  0x7FF * Nat.pow 2 52

def zero (negative : Bool) : Binary64 :=
  ofMagnitude negative 0

def infinity (negative : Bool) : Binary64 :=
  ofMagnitude negative infinityMagnitude

/-- The integer nearest to `num / den`, a half going to the even neighbour. -/
def roundToEven (num den : Nat) : Nat :=
  let quotient := num / den
  let twice := 2 * (num % den)
  if twice < den then quotient
  else if den < twice then quotient + 1
  else quotient + quotient % 2

/-- The number nearest to `num / den`, a half going to the even mantissa, and an infinity beyond the
largest finite magnitude. The carry of a mantissa that rounds up to the next power of two moves the
exponent by itself. -/
def nearest (negative : Bool) (num den : Nat) : Binary64 :=
  if num = 0 then zero negative
  else
    let estimate : Int := (num.log2 : Int) - (den.log2 : Int) - 52
    let reaches (e : Int) : Bool :=
      Nat.pow 2 52 * den * Nat.pow 2 e.toNat ≤ num * Nat.pow 2 (-e).toNat
    let exact := if reaches estimate then estimate else estimate - 1
    let e := max exact (-1074)
    let rounded := roundToEven (num * Nat.pow 2 (-e).toNat) (den * Nat.pow 2 e.toNat)
    let magnitude := (e + 1074).toNat * Nat.pow 2 52 + rounded
    if magnitude < infinityMagnitude then ofMagnitude negative magnitude else infinity negative

def ofInt (n : Int) : Binary64 :=
  nearest (n < 0) n.natAbs 1

def powerOfTen (exponent : Nat) : Binary64 :=
  nearest false (Nat.pow 10 exponent) 1

/-- The rounded product of two finite magnitudes. -/
def product (x y : Binary64) : Binary64 :=
  let q := x.scale + y.scale
  nearest false (x.mantissa * y.mantissa * Nat.pow 2 q.toNat) (Nat.pow 2 (-q).toNat)

/-- The rounded quotient of two finite magnitudes, the second one not zero. -/
def quotient (x y : Binary64) : Binary64 :=
  let q := x.scale - y.scale
  nearest false (x.mantissa * Nat.pow 2 q.toNat) (y.mantissa * Nat.pow 2 (-q).toNat)

/-- The number with its sign bit flipped when `flip` holds. -/
def withSign (flip : Bool) (x : Binary64) : Binary64 :=
  if flip then ⟨x.bits ^^^ 0x8000000000000000⟩ else x

end Binary64

end GraphSearch
