import GraphSearch.Number.Shortest

/-!
How a floating point number is written: the layout of its shortest digits.
-/

namespace GraphSearch

/-- The decisions of one way to write numbers. -/
structure NumberStyle where
  /-- Which of two equally near decimals is written. -/
  tie : Tie
  /-- The exponents of the leading digit for which digits are written positionally, if bounded. -/
  positional : Option (Int × Int)
  /-- What follows a number without a fraction in positional form. -/
  wholeSuffix : String
  nan : String
  infinity : String

namespace NumberStyle

/-- Digits without an exponent: the decimal point stands `point` places after the first digit's
left edge. -/
def positionalText (style : NumberStyle) (digits : List Char) (point : Int) : String :=
  if point ≤ 0 then
    "0." ++ String.ofList (List.replicate (-point).toNat '0' ++ digits)
  else if digits.length ≤ point.toNat then
    String.ofList (digits ++ List.replicate (point.toNat - digits.length) '0') ++ style.wholeSuffix
  else
    String.ofList (digits.take point.toNat) ++ "." ++ String.ofList (digits.drop point.toNat)

/-- One digit, the others after a point, and a signed exponent. -/
def exponentText (digits : List Char) (exponent : Int) : String :=
  let fraction := digits.drop 1
  String.ofList (digits.take 1) ++
    (if fraction.isEmpty then "" else "." ++ String.ofList fraction) ++
    (if exponent < 0 then "e-" else "e+") ++ toString exponent.natAbs

/-- The text of a number that is neither infinite nor NaN, without its sign. -/
def magnitudeText (style : NumberStyle) (x : Binary64) : String :=
  if x.isZero then "0" ++ style.wholeSuffix
  else
    let d := Decimal.shortest style.tie x
    let digits := Nat.toDigits 10 d.digits
    let leading : Int := d.exponent + digits.length - 1
    match style.positional with
    | none => style.positionalText digits (leading + 1)
    | some (low, high) =>
      if low ≤ leading ∧ leading < high then style.positionalText digits (leading + 1)
      else exponentText digits leading

def text (style : NumberStyle) (x : Binary64) : String :=
  if x.isNaN then style.nan
  else (if x.negative then "-" else "") ++
    if x.isFinite then style.magnitudeText x else style.infinity

/-- Numbers as they are shown to a reader: never an exponent, and no fraction on whole numbers. -/
def plain : NumberStyle where
  tie := .up
  positional := none
  wholeSuffix := ""
  nan := "NaN"
  infinity := "inf"

/-- Finite numbers as JSON documents hold them: positional from `1e-5` to below `1e16`, and always
with a fraction or an exponent. -/
def json : NumberStyle where
  tie := .toEven
  positional := some (-5, 16)
  wholeSuffix := ".0"
  nan := "NaN"
  infinity := "inf"

end NumberStyle

end GraphSearch
