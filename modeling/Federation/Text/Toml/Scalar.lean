import Federation.Text.Decimal
import Federation.Text.Hex
import Federation.Text.Toml
import Federation.Time.Instant

/-!
# TOML scalars

The values that stand on one line without quotes: numbers, dates with times, and the two truth
values.

- `integer?` reads whole numbers of 64 bits: decimal with a sign, or of base 16, 8 or 2 without.
- `decimal?` reads numbers with a fraction or an exponent.
- `moment?` reads a date, a time, or both with an offset or none.
-/

namespace Federation.Text.Toml

open Federation.Time

/-! ## Numbers -/

/-- The digits of a numeral; between two of them may be an underscore. -/
def digits? (isDigit : Char → Bool) : List Char → Option (List Char)
  | [] => none
  | [c] => if isDigit c then some [c] else none
  | c :: '_' :: rest => if isDigit c then (digits? isDigit rest).map (c :: ·) else none
  | c :: rest => if isDigit c then (digits? isDigit rest).map (c :: ·) else none

/-- The value of a digit of any base up to sixteen. -/
def digitValue (c : Char) : Nat :=
  if Decimal.isDigit c then Decimal.value c else c.toLower.toNat - 87

def isHexDigit (c : Char) : Bool := (Hex.value? c).isSome

def readBase (base : Nat) (digits : List Char) : Nat :=
  digits.foldl (fun n c => base * n + digitValue c) 0

/-- A decimal numeral that begins with no zero, except zero itself. -/
def wholeDigits? (s : List Char) : Option (List Char) :=
  match digits? Decimal.isDigit s with
  | some ('0' :: _ :: _) => none
  | ds => ds

/-- The sign of a numeral, true for minus, and what follows it. -/
def splitSign : List Char → Bool × List Char
  | '-' :: rest => (true, rest)
  | '+' :: rest => (false, rest)
  | rest => (false, rest)

def fitsWord (n : Int) : Bool := -9223372036854775808 ≤ n && n ≤ 9223372036854775807

/-- Reads a whole number of 64 bits. -/
def integer? (s : List Char) : Option Int := do
  let n : Int ← match s with
    | '0' :: 'x' :: rest => (digits? isHexDigit rest).map fun ds => (readBase 16 ds : Int)
    | '0' :: 'o' :: rest =>
      (digits? (fun c => '0' ≤ c && c ≤ '7') rest).map fun ds => (readBase 8 ds : Int)
    | '0' :: 'b' :: rest =>
      (digits? (fun c => c == '0' || c == '1') rest).map fun ds => (readBase 2 ds : Int)
    | _ => do
      let (isNegative, rest) := splitSign s
      let n : Int := readBase 10 (← wholeDigits? rest)
      pure (if isNegative then -n else n)
  if fitsWord n then some n else none

/-- The parts of a list before and after the first element of a kind. -/
def cutAt (p : Char → Bool) (s : List Char) : List Char × Option (List Char) :=
  match s.dropWhile fun c => !p c with
  | [] => (s, none)
  | _ :: rest => (s.takeWhile fun c => !p c, some rest)

/-- The least number that rounds to no binary number of 64 bits. -/
def decimalBound : Nat := 2 ^ 1024 - 2 ^ 970

/-- The number `m` times ten to the power of `e` is below the bound. -/
def isBounded (m : Nat) (e : Int) : Bool :=
  m = 0 || ((toString m).length + e ≤ 400 &&
    if 0 ≤ e then m * 10 ^ e.toNat < decimalBound
    else m < decimalBound * 10 ^ (min e.natAbs (toString m).length))

/-- Reads a number with a fraction, an exponent or both, or one of the words for infinity and for no
number. A positive number has to be in the range of 64 bits. -/
def decimal? (s : List Char) : Option String := do
  let (isNegative, unsigned) := splitSign s
  if unsigned = ['i', 'n', 'f'] ∨ unsigned = ['n', 'a', 'n'] then return String.ofList s
  let (front, exponent) := cutAt (fun c => c == 'e' || c == 'E') unsigned
  let (whole, fraction) := cutAt (· == '.') front
  if fraction.isNone ∧ exponent.isNone then none
  let ws ← wholeDigits? whole
  let fs ← match fraction with
    | some f => digits? Decimal.isDigit f
    | none => some []
  let e ← match exponent with
    | some t => (digits? Decimal.isDigit (splitSign t).2).map fun ds =>
        if (splitSign t).1 then -(readBase 10 ds : Int) else readBase 10 ds
    | none => some 0
  if isNegative ∨ isBounded (readBase 10 (ws ++ fs)) (e - fs.length) then
    return String.ofList s
  none

/-! ## Dates and times -/

/-- Reads a date from the front. -/
def date? (s : List Char) : Option (Date × List Char) := do
  let (year, s) ← Decimal.take? 4 s
  let s ← Instant.skip? '-' s
  let (month, s) ← Decimal.take? 2 s
  let s ← Instant.skip? '-' s
  let (day, s) ← Decimal.take? 2 s
  let d : Date := ⟨year, month, day⟩
  if d.exists? then some (d, s) else none

/-- Reads a time of day from the front and answers what follows it. -/
def time? (s : List Char) : Option (List Char) := do
  let (hour, s) ← Decimal.take? 2 s
  let s ← Instant.skip? ':' s
  let (minute, s) ← Decimal.take? 2 s
  let s ← Instant.skip? ':' s
  let (second, s) ← Decimal.take? 2 s
  let (_, s) ← Instant.fraction? s
  if hour ≤ 23 ∧ minute ≤ 59 ∧ second ≤ 60 then some s else none

/-- Reads a date, a time of day, or both with `T` or a blank between them. -/
def moment? (s : List Char) : Option String := do
  let rest ← match date? s with
    | some (_, []) => some []
    | some (_, c :: rest) => do
      if c ≠ 'T' ∧ c ≠ 't' ∧ c ≠ ' ' then none
      match ← time? rest with
      | [] => some []
      | offset => (Instant.offset? offset).map (·.2)
    | none => time? s
  if rest.isEmpty then some (String.ofList s) else none

/-! ## Words -/

/-- Reads a run of characters that no blank, comma or bracket interrupts. -/
def ofWord? (w : List Char) : Option Toml :=
  if w = ['t', 'r', 'u', 'e'] then some (.boolean true)
  else if w = ['f', 'a', 'l', 's', 'e'] then some (.boolean false)
  else (moment? w).map Toml.moment
    <|> (integer? w).map Toml.integer
    <|> (decimal? w).map Toml.decimal

end Federation.Text.Toml
