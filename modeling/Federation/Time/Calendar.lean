/-!
# Calendar

The proleptic Gregorian calendar as a count of days from 1970-01-01. A year starts in March here,
so the leap day is the last of its year and the length of the months before one follows a line.

    dateOfDay (dayOfDate d) = d   for every date that exists
-/

namespace Federation.Time

/-- A date; the year is astronomical, so year 0 is the one before year 1. -/
structure Date where
  year : Int
  month : Nat
  day : Nat
deriving DecidableEq, Repr

/-! ## Algorithm -/

def isLeapYear (year : Int) : Bool :=
  year % 4 == 0 && (year % 100 != 0 || year % 400 == 0)

def daysInMonth (year : Int) (month : Nat) : Nat :=
  if month = 2 then (if isLeapYear year then 29 else 28)
  else if month = 4 ∨ month = 6 ∨ month = 9 ∨ month = 11 then 30
  else 31

/-- The date exists: its month has a day of that number. -/
def Date.exists? (d : Date) : Bool :=
  1 ≤ d.month && d.month ≤ 12 && 1 ≤ d.day && d.day ≤ daysInMonth d.year d.month

/-- Days from 0000-03-01 to the first of March of `year`. -/
def marchDay (year : Int) : Int := 365 * year + year / 4 - year / 100 + year / 400

/-- Days from the first of March to the first day of the `m`-th month from March on. -/
def monthDay (m : Nat) : Nat := (153 * m + 2) / 5

/-- Days from 1970-01-01 to a date. -/
def dayOfDate (d : Date) : Int :=
  let year := if d.month ≤ 2 then d.year - 1 else d.year
  let m := if d.month ≤ 2 then d.month + 9 else d.month - 3
  marchDay year + monthDay m + d.day - 1 - 719468

/-- The date that lies `day` days after 1970-01-01. -/
def dateOfDay (day : Int) : Date :=
  let z := day + 719468
  let era := z / 146097
  let doe := (z % 146097).toNat
  let yoe := (doe - doe / 1460 + doe / 36524 - doe / 146096) / 365
  let doy := doe - (365 * yoe + yoe / 4 - yoe / 100)
  let m := (5 * doy + 2) / 153
  let month := if m < 10 then m + 3 else m - 9
  let year := era * 400 + yoe
  { year := if month ≤ 2 then year + 1 else year, month, day := doy - monthDay m + 1 }

end Federation.Time
