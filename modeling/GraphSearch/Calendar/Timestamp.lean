import GraphSearch.Calendar.Instant
import GraphSearch.Text.Blank

/-!
Instants as text: a date, a time of day and an offset from universal time.

Writing uses the fewest of zero, three, six or nine fraction digits that are exact. Reading is more
lenient: blanks may stand before each number and separator, numbers may be short, the separator of
date and time may be a space, and the offset may have blanks, a colon or nothing between its parts.
-/

namespace GraphSearch

namespace Instant

/-- A number in decimal digits, with zeros in front up to the given width. -/
def padded (width n : Nat) : String :=
  let digits := Nat.toDigits 10 n
  String.ofList (List.replicate (width - digits.length) '0' ++ digits)

/-- The fraction of a second in the fewest of zero, three, six or nine digits. -/
def fractionText (nanoseconds : Nat) : String :=
  if nanoseconds = 0 then ""
  else if nanoseconds % 1000000 = 0 then "." ++ padded 3 (nanoseconds / 1000000)
  else if nanoseconds % 1000 = 0 then "." ++ padded 6 (nanoseconds / 1000)
  else "." ++ padded 9 nanoseconds

/-- A year of four digits, or a signed year outside of those. -/
def yearText (year : Int) : String :=
  if 0 ≤ year ∧ year ≤ 9999 then padded 4 year.toNat
  else (if year < 0 then "-" else "+") ++ padded 4 year.natAbs

/-- The instant as text, with `zone` for universal time. -/
def textWith (zone : String) (t : Instant) : String :=
  let date := CivilDate.ofDays (t.seconds.fdiv 86400)
  let ofDay := (t.seconds - t.seconds.fdiv 86400 * 86400).toNat
  let leap := 1000000000 ≤ t.nanoseconds
  let second := ofDay % 60 + if leap then 1 else 0
  let nanoseconds := if leap then t.nanoseconds - 1000000000 else t.nanoseconds
  yearText date.year ++ "-" ++ padded 2 date.month ++ "-" ++ padded 2 date.day ++ "T" ++
    padded 2 (ofDay / 3600) ++ ":" ++ padded 2 (ofDay / 60 % 60) ++ ":" ++ padded 2 second ++
    fractionText nanoseconds ++ zone

/-- Up to `limit` digits, at least one, and the text after them. -/
def readDigits (limit : Nat) (text : List Char) : Option (Nat × List Char) :=
  let digits := (text.take limit).takeWhile Char.isDigit
  if digits.isEmpty then none
  else some (digits.foldl (fun n c => n * 10 + (c.toNat - 48)) 0, text.drop digits.length)

/-- A number of at most two digits after blanks, not above `most`. -/
def readField (most : Nat) (text : List Char) : Option (Nat × List Char) := do
  let (n, rest) ← readDigits 2 (dropBlanks text)
  if n ≤ most then some (n, rest) else none

/-- A year after blanks: at most four digits, or any number of them behind a sign. -/
def readYear (text : List Char) : Option (Int × List Char) :=
  match dropBlanks text with
  | '-' :: rest => (readDigits rest.length rest).map fun (n, rest) => (-(n : Int), rest)
  | '+' :: rest => (readDigits rest.length rest).map fun (n, rest) => ((n : Int), rest)
  | text => (readDigits 4 text).map fun (n, rest) => ((n : Int), rest)

def readMark (mark : Char) (text : List Char) : Option (List Char) :=
  match dropBlanks text with
  | c :: rest => if c = mark then some rest else none
  | [] => none

/-- A fraction of a second, if there is one, in nanoseconds; further digits are passed over. -/
def readFraction : List Char → Option (Nat × List Char)
  | '.' :: text => do
    let (n, rest) ← readDigits 9 text
    let width := text.length - rest.length
    some (n * Nat.pow 10 (9 - width), rest.dropWhile Char.isDigit)
  | text => some (0, text)

/-- Hours and minutes of an offset, two digits each, in seconds. -/
def readOffsetMagnitude : List Char → Option (Nat × List Char)
  | h :: h' :: rest =>
    if h.isDigit && h'.isDigit then
      match rest.dropWhile fun c => c = ':' || isBlank c with
      | m :: m' :: rest =>
        if m.isDigit && m'.isDigit && m.toNat < 54 then
          some (((h.toNat - 48) * 10 + (h'.toNat - 48)) * 3600 +
            ((m.toNat - 48) * 10 + (m'.toNat - 48)) * 60, rest)
        else none
      | _ => none
    else none
  | _ => none

/-- An offset from universal time in seconds, below one day. -/
def readOffset (text : List Char) : Option (Int × List Char) :=
  if (text.take 3).map Char.toUpper = ['U', 'T', 'C'] then some (0, text.drop 3)
  else match text with
    | 'Z' :: rest | 'z' :: rest => some (0, rest)
    | '+' :: rest => do
      let (n, rest) ← readOffsetMagnitude rest
      if n < 86400 then some ((n : Int), rest) else none
    | '-' :: rest | '−' :: rest => do
      let (n, rest) ← readOffsetMagnitude rest
      if n < 86400 then some (-(n : Int), rest) else none
    | _ => none

def readDivider : List Char → Option (List Char)
  | 't' :: rest | 'T' :: rest | ' ' :: rest => some rest
  | _ => none

/-- The instant that a text names, if the whole text names one. -/
def ofText? (text : String) : Option Instant := do
  let (year, rest) ← readYear text.toList
  let rest ← readMark '-' rest
  let (month, rest) ← readField 12 rest
  let rest ← readMark '-' rest
  let (day, rest) ← readField 31 rest
  let rest ← readDivider rest
  let (hour, rest) ← readField 23 rest
  let rest ← readMark ':' rest
  let (minute, rest) ← readField 59 rest
  let rest ← readMark ':' rest
  let (second, rest) ← readField 60 rest
  let (fraction, rest) ← readFraction rest
  let (offset, rest) ← readOffset (dropBlanks rest)
  let date : CivilDate := ⟨year, month, day⟩
  if (dropBlanks rest).isEmpty && date.isValid then
    let localSecond := date.toDays * 86400 + (hour * 3600 + minute * 60 + min second 59 : Nat)
    if earliestSecond ≤ localSecond ∧ localSecond ≤ latestSecond then
      of? (localSecond - offset) (if second = 60 then fraction + 1000000000 else fraction)
    else none
  else none

end Instant

end GraphSearch
