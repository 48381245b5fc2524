import Federation.Powers

/-!
# Decimal numerals

Unsigned decimal numerals of a fixed width, as dates and times write them, and the reading of a
run of digits.

    fixed w n has w digits, and they read back as n modulo 10 ^ w
-/

namespace Federation.Text.Decimal

/-! ## Algorithm -/

/-- The digit of a number below ten. -/
def digit (n : Nat) : Char := Char.ofNat (48 + n % 10)

/-- The last `w` digits of `n`. -/
def fixed : Nat → Nat → List Char
  | 0, _ => []
  | w + 1, n => fixed w (n / 10) ++ [digit n]

/-- The shortest numeral of `n`, filled with zeros on the left up to `w` digits. -/
def padded (w n : Nat) : List Char :=
  let ds := (toString n).toList
  List.replicate (w - ds.length) '0' ++ ds

def isDigit (c : Char) : Bool := 48 ≤ c.toNat && c.toNat ≤ 57

def value (c : Char) : Nat := c.toNat - 48

/-- The number that a list of digits writes, after `acc`. -/
def readFrom (acc : Nat) (ds : List Char) : Nat := ds.foldl (fun n c => 10 * n + value c) acc

/-- Reads exactly `w` digits from the front. -/
def take? (w : Nat) (s : List Char) : Option (Nat × List Char) :=
  let ds := s.take w
  if ds.length = w ∧ ds.all isDigit then some (readFrom 0 ds, s.drop w) else none

/-- Reads a numeral without a sign: one digit or more and nothing else. -/
def read? (s : List Char) : Option Nat :=
  if !s.isEmpty && s.all isDigit then some (readFrom 0 s) else none

/-! ## Lemmas -/

theorem length_fixed (w n : Nat) : (fixed w n).length = w := by
  induction w generalizing n with
  | zero => rfl
  | succ w ih => simp [fixed, ih]

end Federation.Text.Decimal
