import GraphSearch.Number.Binary64

/-!
The fewest decimal digits that identify a floating point number.

The reals that round to a number form an interval. `shortest` looks for the coarsest decimal grid
with a point in that interval and takes the grid point next to the number, the nearer one if both
neighbours lie in the interval.
-/

namespace GraphSearch

/-- The positive decimal `digits * 10 ^ exponent`. -/
structure Decimal where
  digits : Nat
  exponent : Int
deriving DecidableEq, Repr

/-- Which of two equally near decimals is taken. -/
inductive Tie where
  | toEven
  | up
deriving DecidableEq, Repr

namespace Decimal

/-- Compares `a * 10 ^ i` with `n * 2 ^ j`. -/
def compareScaled (a : Nat) (i : Int) (n : Nat) (j : Int) : Ordering :=
  compare (a * Nat.pow 10 i.toNat * Nat.pow 2 (-j).toNat)
    (n * Nat.pow 2 j.toNat * Nat.pow 10 (-i).toNat)

/-- Whether the decimal rounds to the magnitude of `x`: it lies between the midpoints to the two
neighbours of `x`, the midpoints included exactly when the mantissa is even. -/
def readsBackTo (d : Decimal) (x : Binary64) : Bool :=
  let low := 4 * x.mantissa - if x.narrowBelow then 1 else 2
  let high := 4 * x.mantissa + 2
  let inclusive := x.mantissa % 2 == 0
  let aboveLow := compareScaled d.digits d.exponent low (x.scale - 2)
  let belowHigh := compareScaled d.digits d.exponent high (x.scale - 2)
  (aboveLow == .gt || (inclusive && aboveLow == .eq)) &&
    (belowHigh == .lt || (inclusive && belowHigh == .eq))

/-- The number of decimal digits of `n`, zero for zero. -/
def digitCount (n : Nat) : Nat :=
  if n = 0 then 0 else (Nat.toDigits 10 n).length

/-- The least `k` with `num / den < 10 ^ k`, for a positive quotient. -/
def leadingExponent (num den : Nat) : Int :=
  if den ≤ num then digitCount (num / den)
  else 1 - (digitCount ((den - 1) / num) : Int)

/-- The multiple of `10 ^ exponent` next to `num / den` that reads back to `x`, if there is one. -/
def onGrid (tie : Tie) (x : Binary64) (num den : Nat) (exponent : Int) : Option Decimal :=
  let top := num * Nat.pow 10 (-exponent).toNat
  let bottom := den * Nat.pow 10 exponent.toNat
  let below : Decimal := ⟨top / bottom, exponent⟩
  let above : Decimal := ⟨top / bottom + 1, exponent⟩
  match below.readsBackTo x, above.readsBackTo x with
  | true, false => some below
  | false, true => some above
  | false, false => none
  | true, true =>
    let twice := 2 * (top % bottom)
    if twice < bottom then some below
    else if bottom < twice then some above
    else match tie with
      | .up => some above
      | .toEven => if below.digits % 2 = 0 then some below else some above

/-- The decimal without trailing zeros in its digits; `fuel` bounds their number. -/
def stripZeros (d : Decimal) : Nat → Decimal
  | 0 => d
  | fuel + 1 =>
    if d.digits ≠ 0 ∧ d.digits % 10 = 0 then stripZeros ⟨d.digits / 10, d.exponent + 1⟩ fuel else d

/-- The shortest decimal that reads back to the magnitude of the finite number `x`, which is not
zero. Seventeen digits always suffice; the exact magnitude stands in where none is found. -/
def shortest (tie : Tie) (x : Binary64) : Decimal :=
  let num := x.mantissa * Nat.pow 2 x.scale.toNat
  let den := Nat.pow 2 (-x.scale).toNat
  let leading := leadingExponent num den
  let found := (List.range 17).findSome? fun n => onGrid tie x num den (leading - (n + 1 : Nat))
  let exact : Decimal := ⟨num * Nat.pow 5 (-x.scale).toNat, -((-x.scale).toNat : Int)⟩
  let d := found.getD exact
  d.stripZeros (digitCount d.digits)

end Decimal

end GraphSearch
