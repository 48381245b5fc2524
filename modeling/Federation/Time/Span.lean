import Federation.Powers

/-!
# Spans

Lengths of time without a sign in nanoseconds, as intervals and bounds are set with them.
-/

namespace Federation.Time

/-- A length of time. -/
structure Span where
  nanos : Nat
deriving DecidableEq, Repr

namespace Span

def ofMillis (n : Nat) : Span := ⟨n * 1000000⟩

def ofSeconds (n : Nat) : Span := ⟨n * 1000000000⟩

/-- Whole seconds. -/
def seconds (s : Span) : Nat := s.nanos / 1000000000

/-- A number of units of so many nanoseconds, with the digits after the point that are not zero. -/
def inUnits (n places : Nat) (unit : String) : String :=
  let digits := (toString (n % 10 ^ places)).toList
  let padded := List.replicate (places - digits.length) '0' ++ digits
  let fraction := (padded.reverse.dropWhile (· = '0')).reverse
  toString (n / 10 ^ places) ++ (if n % 10 ^ places = 0 then "" else "." ++ String.ofList fraction)
    ++ unit

/-- In the largest unit from nanoseconds to seconds that it reaches. -/
def text (s : Span) : String :=
  if 1000000000 ≤ s.nanos then inUnits s.nanos 9 "s"
  else if 1000000 ≤ s.nanos then inUnits s.nanos 6 "ms"
  else if 1000 ≤ s.nanos then inUnits s.nanos 3 "µs"
  else inUnits s.nanos 0 "ns"

end Span

end Federation.Time
