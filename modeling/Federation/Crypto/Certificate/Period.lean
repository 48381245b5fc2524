import Federation.Crypto.Der.Part
import Federation.Text.Decimal
import Federation.Time.Calendar

/-!
# Periods of validity

The two times between which a certificate holds. They have to be dates that exist, in one of two
written forms; the clock is not asked.

    YYMMDDhhmm[ss](Z | ±hhmm)        with a year of two digits
    YYYYMMDDhhmm[ss][.fff]Z          with a year of four
-/

namespace Federation.Crypto.Certificate

open Text (Decimal.take?)

/-! ## Algorithm -/

/-- Reads a date in a year and a time of day, and answers the text after it. Seconds may be absent
before the last character. -/
def moment? (year : Nat) (s : List Char) : Option (List Char) := do
  let (month, s) ← Decimal.take? 2 s
  let (day, s) ← Decimal.take? 2 s
  let (hour, s) ← Decimal.take? 2 s
  let (minute, s) ← Decimal.take? 2 s
  let (second, s) ← if s.length < 2 then some (0, s) else Decimal.take? 2 s
  let date : Time.Date := ⟨year, month, day⟩
  if date.exists? ∧ hour < 24 ∧ minute < 60 ∧ second < 60 then some s else none

/-- A distance from UTC; hours up to 25 are taken. -/
def isOffset (s : List Char) : Bool :=
  match s with
  | sign :: digits => (sign = '+' || sign = '-') && (do
      let (hours, minutes) ← Decimal.take? 2 digits
      let (minutes, []) ← Decimal.take? 2 minutes | none
      return decide (hours ≤ 25 ∧ minutes < 60)).getD false
  | [] => false

/-- A time with a year of two digits. The year is from 1950 to 2049, and of two years that end alike
one has a leap day if the other has. -/
def isShortTime (s : List Char) : Bool := (do
  let (year, s) ← Decimal.take? 2 s
  let zone ← moment? (2000 + year) s
  return zone = ['Z'] || isOffset zone).getD false

/-- Three digits at most, after a point. -/
def isFraction (s : List Char) : Bool :=
  match s with
  | [] => true
  | c :: digits => c = '.' && digits.length ≤ 3 && digits.all Text.Decimal.isDigit

/-- A time with a year of four digits, in UTC. -/
def isLongTime (s : List Char) : Bool := (do
  let (year, s) ← Decimal.take? 4 s
  let zone ← moment? year s
  return zone.getLast? = some 'Z' && isFraction zone.dropLast).getD false

/-- The form that a time has is told by the number of its tag. -/
def isTime (p : Der.Part) : Bool :=
  let text := p.body.map fun b => Char.ofNat b.toNat
  p.number = Der.number Der.utcTime && isShortTime text
    || p.number = Der.number Der.generalTime && isLongTime text

/-- A period is two times; what follows them is passed over. -/
def isPeriod (body : Bytes) : Bool := (do
  let start ← Der.Part.read? body
  let stop ← Der.Part.read? start.rest
  return isTime start && isTime stop).getD false

end Federation.Crypto.Certificate
