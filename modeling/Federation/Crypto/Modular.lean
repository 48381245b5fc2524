import Federation.Powers

/-!
# Modular arithmetic

Powers, inverses and differences of numbers modulo another, on which RSA and elliptic curves rest.

    power b e m = b ^ e % m
-/

namespace Federation.Crypto.Modular

/-! ## Algorithm -/

/-- The power `b ^ e` modulo `m`, by repeated squaring. -/
def power (b e m : Nat) : Nat :=
  if e = 0 then 1 % m
  else
    let half := power (b * b % m) (e / 2) m
    if e % 2 = 1 then b * half % m else half
termination_by e

/-- The inverse of `a` modulo a prime. -/
def inverse (a p : Nat) : Nat := power (a % p) (p - 2) p

/-- The difference of two numbers below `m`. -/
def sub (a b m : Nat) : Nat := (a + (m - b)) % m

/-! ## Lemmas -/

theorem power_eq (b e m : Nat) : power b e m = b ^ e % m := by
  induction e using Nat.strongRecOn generalizing b with
  | ind e ih =>
    rw [power]
    split
    case isTrue h => simp [h]
    case isFalse h =>
      have hsq : (b * b % m) ^ (e / 2) % m = (b ^ 2) ^ (e / 2) % m := by
        rw [← Nat.pow_mod, Nat.pow_two]
      simp only [ih (e / 2) (by omega), hsq, ← Nat.pow_mul]
      split
      case isTrue h1 =>
        rw [Nat.mul_mod, Nat.mod_mod, ← Nat.mul_mod, Nat.mul_comm, ← Nat.pow_succ]
        congr 2; omega
      case isFalse h1 => congr 2; omega

end Federation.Crypto.Modular
