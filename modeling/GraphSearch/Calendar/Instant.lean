/-!
Instants of the proleptic Gregorian calendar, in universal time.

An instant is a second counted from the start of 1970 and a fraction of it. The fraction may exceed
a whole second in the last second of a minute: that is how a leap second is kept.
-/

namespace GraphSearch

/-- A date of the calendar. -/
structure CivilDate where
  year : Int
  month : Nat
  day : Nat
deriving DecidableEq, Repr

namespace CivilDate

def isLeapYear (year : Int) : Bool :=
  year % 4 == 0 && (year % 100 != 0 || year % 400 == 0)

def daysInMonth (year : Int) (month : Nat) : Nat :=
  match month with
  | 4 | 6 | 9 | 11 => 30
  | 2 => if isLeapYear year then 29 else 28
  | _ => 31

/-- Whether the month exists and has that day. -/
def isValid (date : CivilDate) : Bool :=
  1 ≤ date.month && date.month ≤ 12 && 1 ≤ date.day &&
    date.day ≤ daysInMonth date.year date.month

/-- Days from the first of January 1970. The year is taken to begin in March, so that the leap day
is its last day. -/
def toDays (date : CivilDate) : Int :=
  let year := if date.month ≤ 2 then date.year - 1 else date.year
  let era := year.fdiv 400
  let yearOfEra := year - era * 400
  let monthFromMarch := (date.month + 9) % 12
  let dayOfYear := (153 * monthFromMarch + 2) / 5 + date.day - 1
  let dayOfEra := yearOfEra * 365 + yearOfEra / 4 - yearOfEra / 100 + dayOfYear
  era * 146097 + dayOfEra - 719468

/-- The date that many days from the first of January 1970. -/
def ofDays (days : Int) : CivilDate :=
  let shifted := days + 719468
  let era := shifted.fdiv 146097
  let dayOfEra := shifted - era * 146097
  let yearOfEra := (dayOfEra - dayOfEra / 1460 + dayOfEra / 36524 - dayOfEra / 146096) / 365
  let dayOfYear := (dayOfEra - (365 * yearOfEra + yearOfEra / 4 - yearOfEra / 100)).toNat
  let monthFromMarch := (5 * dayOfYear + 2) / 153
  let day := dayOfYear - (153 * monthFromMarch + 2) / 5 + 1
  let month := if monthFromMarch < 10 then monthFromMarch + 3 else monthFromMarch - 9
  let year := yearOfEra + era * 400
  ⟨if month ≤ 2 then year + 1 else year, month, day⟩

end CivilDate

def earliestSecond : Int := -8334601228800

def latestSecond : Int := 8210266876799

/-- An instant in universal time. -/
structure Instant where
  /-- Whole seconds from the start of 1970. -/
  seconds : Int
  /-- Nanoseconds into that second, or into the leap second that follows it. -/
  nanoseconds : Nat
  in_range : earliestSecond ≤ seconds ∧ seconds ≤ latestSecond
  in_second : nanoseconds < 1000000000 ∨ (nanoseconds < 2000000000 ∧ seconds % 60 = 59)
deriving DecidableEq

namespace Instant

/-- The instant of a second and a fraction of it, if the calendar reaches that far. -/
def of? (seconds : Int) (nanoseconds : Nat) : Option Instant :=
  if h : (earliestSecond ≤ seconds ∧ seconds ≤ latestSecond) ∧
      (nanoseconds < 1000000000 ∨ (nanoseconds < 2000000000 ∧ seconds % 60 = 59)) then
    some ⟨seconds, nanoseconds, h.1, h.2⟩
  else none

/-- Whole milliseconds from the start of 1970, toward the past. -/
def milliseconds (t : Instant) : Int64 :=
  Int64.ofInt (t.seconds * 1000 + (t.nanoseconds / 1000000 : Nat))

end Instant

end GraphSearch
