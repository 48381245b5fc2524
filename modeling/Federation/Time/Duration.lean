import Federation.Powers

/-!
# Durations

Signed spans of time in nanoseconds, between the two ends that 64-bit milliseconds can write.
-/

namespace Federation.Time

/-- A signed span of time. -/
structure Duration where
  nanos : Int
deriving DecidableEq, Repr

namespace Duration

/-! ## Algorithm -/

def ofMillis (n : Int) : Duration := ⟨n * 1000000⟩

def ofSeconds (n : Int) : Duration := ⟨n * 1000000000⟩

/-- The longest span: 2 ^ 63 - 1 milliseconds. -/
def longest : Duration := ofMillis (2 ^ 63 - 1)

/-- The opposite of the longest span. -/
def shortest : Duration := ofMillis (-(2 ^ 63 - 1))

/-- A configured number of seconds; beyond the longest span it is the longest span. -/
def ofSecondsCapped (n : Nat) : Duration :=
  if (n : Int) * 1000 ≤ 2 ^ 63 - 1 then ofSeconds n else longest

def abs (d : Duration) : Duration := ⟨d.nanos.natAbs⟩

def neg (d : Duration) : Duration := ⟨-d.nanos⟩

/-- Whole milliseconds, toward zero. -/
def millis (d : Duration) : Int := d.nanos.tdiv 1000000

/-- Whole seconds, toward zero. -/
def seconds (d : Duration) : Int := d.nanos.tdiv 1000000000

instance : LE Duration := ⟨fun a b => a.nanos ≤ b.nanos⟩

instance : LT Duration := ⟨fun a b => a.nanos < b.nanos⟩

instance (a b : Duration) : Decidable (a ≤ b) := inferInstanceAs (Decidable (a.nanos ≤ b.nanos))

instance (a b : Duration) : Decidable (a < b) := inferInstanceAs (Decidable (a.nanos < b.nanos))

/-- The digits of a fraction of a second in nanoseconds, without trailing zeros. -/
def fractionText (n : Nat) : List Char :=
  let ds := (toString n).toList
  let padded := List.replicate (9 - ds.length) '0' ++ ds
  (padded.reverse.dropWhile (· == '0')).reverse

/-- The ISO 8601 form in seconds: `PT1.5S`, `-PT1.5S`, and `P0D` for the empty span. -/
def text (d : Duration) : String :=
  let n := d.nanos.natAbs
  if n = 0 then "P0D"
  else
    let sign := if d.nanos < 0 then "-" else ""
    let fraction := n % 1000000000
    let tail := if fraction = 0 then "" else "." ++ String.ofList (fractionText fraction)
    sign ++ "PT" ++ toString (n / 1000000000) ++ tail ++ "S"

end Duration

end Federation.Time
