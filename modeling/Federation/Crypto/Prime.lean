import Federation.Crypto.Modular

/-!
# Primes

Large primes for RSA keys: a search upwards from a random start, with a test by powers to small
bases.
-/

namespace Federation.Crypto.Prime

/-! ## Algorithm -/

/-- `n` as an odd number times a power of two, of at most `2 ^ fuel`. -/
def oddPart : Nat → Nat → Nat × Nat
  | 0, n => (n, 0)
  | fuel + 1, n =>
    if n % 2 = 0 ∧ n ≠ 0 then
      let (d, s) := oddPart fuel (n / 2)
      (d, s + 1)
    else (n, 0)

/-- One of `x`, `x ^ 2`, `x ^ 4`, …, `s` of them, is `n - 1`. -/
def meetsMinusOne (n : Nat) : Nat → Nat → Bool
  | 0, _ => false
  | s + 1, x => x = n - 1 || meetsMinusOne n s (x * x % n)

/-- The powers of `a` modulo `n` are as they would be for a prime. -/
def passes (n a : Nat) : Bool :=
  let (d, s) := oddPart n.log2 (n - 1)
  let x := Modular.power a d n
  x = 1 || meetsMinusOne n s x

def bases : List Nat := [2, 3, 5, 7, 11, 13, 17, 19, 23, 29, 31, 37, 41, 43, 47, 53]

/-- No number of the bases divides `n`, and the test passes for each. -/
def isProbable (n : Nat) : Bool :=
  bases.all (fun a => n % a != 0) && bases.all (passes n)

/-- The first odd number from `n` on that passes and suits, within so many steps. -/
def search? (suits : Nat → Bool) : Nat → Nat → Option Nat
  | 0, _ => none
  | fuel + 1, n => if suits n && isProbable n then some n else search? suits fuel (n + 2)

end Federation.Crypto.Prime
