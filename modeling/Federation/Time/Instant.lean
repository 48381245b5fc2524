import Federation.Text.Decimal
import Federation.Text.Blank
import Federation.Time.Calendar
import Federation.Time.Duration

/-!
# Instants

Points of universal time with nanoseconds, from the first day of year -262143 to the last of year
262142. A leap second is the second before it with a nanosecond count of 10 ^ 9 or more, so instants
are ordered by second first and nanosecond next.

Leap seconds end minutes, and every one that is read off a clock does. An instant can be made that
has one elsewhere; a clock shows it as the second after.

- `Instant.format` writes RFC 3339 in UTC, with the fewest of 0, 3, 6 or 9 digits of fraction.
- `Instant.parse?` reads RFC 3339 with any offset.
- `Instant.add?` adds a duration and answers nothing beyond the two ends.
-/

namespace Federation.Time

/-- The second of -262143-01-01T00:00:00Z, counted from 1970-01-01T00:00:00Z. -/
def firstSecond : Int := -8334601228800

/-- The second of 262142-12-31T23:59:59Z. -/
def lastSecond : Int := 8210266876799

/-- A point of universal time. -/
structure Instant where
  second : Int
  nano : Nat
  first_le : firstSecond ≤ second := by decide
  le_last : second ≤ lastSecond := by decide
  nano_lt : nano < 2000000000 := by decide
deriving DecidableEq, Repr

namespace Instant

/-! ## Order and arithmetic -/

def earliest : Instant := { second := firstSecond, nano := 0 }

def latest : Instant := { second := lastSecond, nano := 999999999 }

/-- The instant of a second and a nanosecond count, if both lie in range. -/
def of? (second : Int) (nano : Nat) : Option Instant :=
  if h : firstSecond ≤ second ∧ second ≤ lastSecond ∧ nano < 2000000000 then
    some ⟨second, nano, h.1, h.2.1, h.2.2⟩
  else none

/-- Strictly earlier. -/
def before (a b : Instant) : Bool :=
  a.second < b.second || (a.second == b.second && a.nano < b.nano)

instance : LT Instant := ⟨fun a b => a.before b = true⟩

instance : LE Instant := ⟨fun a b => b.before a = false⟩

instance (a b : Instant) : Decidable (a < b) := inferInstanceAs (Decidable (a.before b = true))

instance (a b : Instant) : Decidable (a ≤ b) := inferInstanceAs (Decidable (b.before a = false))

/-- The later of two instants. -/
def later (a b : Instant) : Instant := if a < b then b else a

/-- Nanoseconds from 1970-01-01T00:00:00Z, not counting a leap second as time of its own. -/
def nanos (t : Instant) : Int := t.second * 1000000000 + t.nano

/-- The instant outside leap seconds that lies `n` nanoseconds after 1970-01-01T00:00:00Z. -/
def ofNanos? (n : Int) : Option Instant := of? (n / 1000000000) (n % 1000000000).toNat

/-- Adds a duration. From within a leap second, a sum that passes its end goes on as if the leap
second had not been there, and one that stays within a second of it keeps the second's count. -/
def add? (t : Instant) (d : Duration) : Option Instant :=
  if t.nano < 1000000000 then ofNanos? (t.nanos + d.nanos)
  else
    let n := (t.nano : Int) + d.nanos
    if 2000000000 ≤ n then ofNanos? (t.nanos - 1000000000 + d.nanos)
    else if d.nanos ≤ -1000000000 then ofNanos? (t.nanos + d.nanos)
    else of? t.second n.toNat

def sub? (t : Instant) (d : Duration) : Option Instant := t.add? d.neg

/-- The span from `b` to `a`. -/
def since (a b : Instant) : Duration := ⟨a.nanos - b.nanos⟩

/-! ## Text -/

/-- The fields of an instant as a clock in UTC shows them; a leap second at the end of a minute is
second 60. -/
structure Clock where
  date : Date
  hour : Nat
  minute : Nat
  second : Nat
  nano : Nat
deriving DecidableEq, Repr

def clock (t : Instant) : Clock :=
  let ofDay := (t.second % 86400).toNat
  let leap := 1000000000 ≤ t.nano
  { date := dateOfDay (t.second / 86400)
    hour := ofDay / 3600
    minute := ofDay / 60 % 60
    second := ofDay % 60 + if leap then 1 else 0
    nano := if leap then t.nano - 1000000000 else t.nano }

/-- Four digits, or a sign and four digits or more outside years 0 to 9999. -/
def yearText (year : Int) : List Char :=
  if 0 ≤ year ∧ year ≤ 9999 then Text.Decimal.fixed 4 year.toNat
  else (if year < 0 then '-' else '+') :: Text.Decimal.padded 4 year.natAbs

/-- The fraction of a second with 0, 3, 6 or 9 digits, the fewest that hold it. -/
def fractionText (nano : Nat) : List Char :=
  if nano = 0 then []
  else if nano % 1000000 = 0 then '.' :: Text.Decimal.fixed 3 (nano / 1000000)
  else if nano % 1000 = 0 then '.' :: Text.Decimal.fixed 6 (nano / 1000)
  else '.' :: Text.Decimal.fixed 9 nano

/-- Date and time of day with `between` between them. -/
def fieldText (between : Char) (c : Clock) : List Char :=
  yearText c.date.year ++ '-' :: Text.Decimal.fixed 2 c.date.month
    ++ '-' :: Text.Decimal.fixed 2 c.date.day
    ++ between :: Text.Decimal.fixed 2 c.hour ++ ':' :: Text.Decimal.fixed 2 c.minute
    ++ ':' :: Text.Decimal.fixed 2 c.second ++ fractionText c.nano

/-- The RFC 3339 form in UTC. -/
def format (t : Instant) : String := String.ofList (fieldText 'T' t.clock ++ ['Z'])

/-- The form that messages show. -/
def shown (t : Instant) : String := String.ofList (fieldText ' ' t.clock) ++ " UTC"

/-- The instant that a clock shows whose offset from universal time is `offset` minutes. -/
def ofClock? (c : Clock) (offset : Int) : Option Instant :=
  if c.date.exists? && c.hour ≤ 23 && c.minute ≤ 59 && c.second ≤ 60 && c.nano ≤ 999999999 then
    let leap := c.second = 60
    let second := if leap then 59 else c.second
    let ofDay := c.hour * 3600 + c.minute * 60 + second
    of? (dayOfDate c.date * 86400 + ofDay - offset * 60)
      (if leap then c.nano + 1000000000 else c.nano)
  else none

/-- Passes the character `c`. -/
def skip? (c : Char) : List Char → Option (List Char)
  | d :: rest => if d = c then some rest else none
  | [] => none

/-- Reads an optional fraction of a second; digits after the ninth are dropped. -/
def fraction? : List Char → Option (Nat × List Char)
  | '.' :: rest =>
    let ds := rest.takeWhile Text.Decimal.isDigit
    if ds.isEmpty then none
    else
      let kept := ds.take 9
      some (Text.Decimal.readFrom 0 kept * 10 ^ (9 - kept.length),
        rest.dropWhile Text.Decimal.isDigit)
  | rest => some (0, rest)

/-- Reads an offset in minutes: `Z`, or a sign (hyphen or minus sign), hours and minutes. -/
def offset? : List Char → Option (Int × List Char)
  | [] => none
  | c :: rest =>
    if c = 'Z' ∨ c = 'z' then some (0, rest)
    else if c = '+' ∨ c = '-' ∨ c = Char.ofNat 0x2212 then do
      let (hours, rest) ← Text.Decimal.take? 2 rest
      let rest ← skip? ':' rest
      let (minutes, rest) ← Text.Decimal.take? 2 rest
      if hours ≤ 23 ∧ minutes ≤ 59 then
        let n : Int := hours * 60 + minutes
        some (if c = '+' then n else -n, rest)
      else none
    else none

/-- Reads RFC 3339 and nothing after it. -/
def parseChars? (s : List Char) : Option Instant := do
  let (year, s) ← Text.Decimal.take? 4 s
  let s ← skip? '-' s
  let (month, s) ← Text.Decimal.take? 2 s
  let s ← skip? '-' s
  let (day, s) ← Text.Decimal.take? 2 s
  let s ← match s with
    | c :: rest => if c = 'T' ∨ c = 't' ∨ c = ' ' then some rest else none
    | [] => none
  let (hour, s) ← Text.Decimal.take? 2 s
  let s ← skip? ':' s
  let (minute, s) ← Text.Decimal.take? 2 s
  let s ← skip? ':' s
  let (second, s) ← Text.Decimal.take? 2 s
  let (nano, s) ← fraction? s
  let (offset, s) ← offset? s
  match s with
  | [] => ofClock? { date := { year, month, day }, hour, minute, second, nano } offset
  | _ :: _ => none

/-- Reads RFC 3339 between blanks. -/
def parse? (s : String) : Option Instant := parseChars? (Text.trim s.toList)

end Instant

end Federation.Time
