import Federation.Crypto.Secret
import Federation.Proofs.Crypto.Rsa
import Mathlib.FieldTheory.Finite.Basic
import Mathlib.GroupTheory.OrderOfElement
import Mathlib.Tactic.Linarith

/-!
# RSA keys with two primes

An RSA key is taken from its written form only if its parts fit (`Secret.fits`). If its two factors
are prime as well, its exponents undo each other.

    readRsaSecret? b = some (rsa k)  →  k.publicKey.modulus = p * q for some p and q, and
      p and q prime  →  k.Inverts

Modulo each prime this is Fermat's theorem, and the two primes differ. Primes of the right form are
seen to be primes by a single power (`prime_of_power`).
-/

namespace Federation.Crypto

/-! ## Primes -/

/-- An exponent that is one modulo `p - 1` changes nothing modulo the prime `p`. -/
theorem pow_modEq_of_prime (p n m : Nat) (hp : p.Prime) (hodd : p ≠ 2)
    (hn : n % (p - 1) = 1 % (p - 1)) : m ^ n ≡ m [MOD p] := by
  have htwo := hp.two_le
  rw [Nat.mod_eq_of_lt (by omega : 1 < p - 1)] at hn
  have hdiv := Nat.div_add_mod n (p - 1)
  rw [hn] at hdiv
  have : Fact p.Prime := ⟨hp⟩
  rw [← ZMod.natCast_eq_natCast_iff, Nat.cast_pow, ← hdiv, pow_succ, pow_mul]
  by_cases hm : (m : ZMod p) = 0
  · rw [hm, mul_zero]
  · rw [ZMod.pow_card_sub_one_eq_one hm, one_pow, one_mul]

/-- Modulo a prime, everything that it does not divide has an inverse. -/
theorem Modular.inverse_mul (a p : Nat) (hp : p.Prime) (ha : ¬ p ∣ a) :
    inverse a p * a % p = 1 := by
  have htwo := hp.two_le
  have : Fact p.Prime := ⟨hp⟩
  have hne : (a : ZMod p) ≠ 0 := fun h => ha ((ZMod.natCast_eq_zero_iff a p).1 h)
  have hone : (1 : Nat) % p = 1 := Nat.mod_eq_of_lt htwo
  rw [← hone, ← Nat.ModEq, ← ZMod.natCast_eq_natCast_iff, inverse, power_eq]
  rw [Nat.cast_mul, ZMod.natCast_mod, Nat.cast_pow, ZMod.natCast_mod, ← pow_succ,
    show p - 2 + 1 = p - 1 by omega, ZMod.pow_card_sub_one_eq_one hne, Nat.cast_one]

theorem Modular.inverse_lt (a p : Nat) (hp : 0 < p) : inverse a p < p := by
  rw [inverse, power_eq]
  exact Nat.mod_lt _ hp

/-- A number is prime if it is one above a multiple `a * 2 ^ (m + 1)` with `a` below the power of
two, and a power halfway to the multiple is minus one: modulo any factor, the order of `x ^ a` is
the power of two, so every factor is above that and there is room for one only. -/
theorem prime_of_power (a m x : Nat) (hpos : 0 < a) (ha : a < 2 ^ (m + 1))
    (h : Modular.power x (a * 2 ^ m) (a * 2 ^ (m + 1) + 1) = a * 2 ^ (m + 1)) :
    (a * 2 ^ (m + 1) + 1).Prime := by
  rw [Modular.power_eq] at h
  have hlarge : 1 < a * 2 ^ (m + 1) + 1 := Nat.succ_lt_succ (Nat.mul_pos hpos (Nat.two_pow_pos _))
  by_contra hnot
  have hsquare := Nat.minFac_sq_le_self (Nat.succ_pos _) hnot
  have hdvd := Nat.minFac_dvd (a * 2 ^ (m + 1) + 1)
  have hprime := Nat.minFac_prime (Nat.ne_of_gt hlarge)
  generalize (a * 2 ^ (m + 1) + 1).minFac = r at *
  have : Fact r.Prime := ⟨hprime⟩
  have hodd : r ≠ 2 := by
    rintro rfl
    have htwo : 2 ∣ a * 2 ^ (m + 1) := ⟨a * 2 ^ m, by rw [pow_succ]; ring⟩
    exact absurd ((Nat.dvd_add_right htwo).1 hdvd) (by decide)
  have : Fact (2 < r) := ⟨lt_of_le_of_ne hprime.two_le (Ne.symm hodd)⟩
  have hminus : ((x : ZMod r) ^ a) ^ 2 ^ m = -1 := by
    have hsum : a * 2 ^ (m + 1) + 1 ∣ x ^ (a * 2 ^ m) + 1 := by
      refine Nat.dvd_of_mod_eq_zero ?_
      rw [Nat.add_mod, h, Nat.mod_eq_of_lt hlarge, Nat.mod_self]
    have hzero := (ZMod.natCast_eq_zero_iff _ r).2 (hdvd.trans hsum)
    push_cast at hzero
    rw [← pow_mul]
    exact eq_neg_of_add_eq_zero_left hzero
  have horder : orderOf ((x : ZMod r) ^ a) = 2 ^ (m + 1) := by
    refine orderOf_eq_prime_pow ?_ ?_
    · rw [hminus]
      exact ZMod.neg_one_ne_one
    · rw [pow_succ, pow_mul, hminus, neg_one_sq]
  have hne : (x : ZMod r) ^ a ≠ 0 := by
    intro hzero
    rw [hzero, zero_pow (Nat.two_pow_pos m).ne'] at hminus
    exact neg_ne_zero.2 one_ne_zero hminus.symm
  have htwo := hprime.two_le
  have hlow : 2 ^ (m + 1) + 1 ≤ r := by
    have hle := Nat.le_of_dvd (by omega) (horder ▸ ZMod.orderOf_dvd_card_sub_one hne)
    omega
  nlinarith

/-! ## Keys of two primes -/

namespace Secret

section
variable (k : Rsa.PrivateKey) (p q dp dq inverse : Nat)
  (h : fits k.publicKey.modulus k.publicKey.exponent k.secret p q dp dq inverse = true)
include h

/-- The two factors differ, since one is invertible modulo the other. -/
theorem ne_of_fits : p ≠ q := by
  rintro rfl
  unfold fits at h
  simp only [Bool.and_eq_true, decide_eq_true_eq] at h
  have hinverse := h.2
  rw [Nat.mul_mod_left] at hinverse
  cases hinverse

theorem inverts_of_fits (husable : k.publicKey.usable = true) (hp : p.Prime) (hq : q.Prime) :
    k.Inverts := by
  have hne := ne_of_fits k p q dp dq inverse h
  unfold fits at h
  unfold Rsa.PublicKey.usable at husable
  simp only [Bool.and_eq_true, decide_eq_true_eq] at h husable
  obtain ⟨⟨⟨⟨⟨⟨⟨⟨⟨hmodulus, -⟩, -⟩, -⟩, hmodp⟩, hmodq⟩, -⟩, -⟩, -⟩, -⟩ := h
  have hodd : k.publicKey.modulus % 2 = 1 := by omega
  rw [hmodulus, Nat.mul_mod] at hodd
  have hp2 : p ≠ 2 := by
    rintro rfl
    simp at hodd
  have hq2 : q ≠ 2 := by
    rintro rfl
    simp at hodd
  intro m hm
  have hmod : m ^ (k.publicKey.exponent * k.secret) ≡ m [MOD p * q] :=
    (Nat.modEq_and_modEq_iff_modEq_mul ((Nat.coprime_primes hp hq).2 hne)).1
      ⟨pow_modEq_of_prime p _ m hp hp2 hmodp, pow_modEq_of_prime q _ m hq hq2 hmodq⟩
  rw [hmodulus] at hm ⊢
  exact Nat.mod_eq_of_modEq hmod hm

end

theorem readRsaSecret?_eq_some (b : Bytes) (s : Secret) (h : readRsaSecret? b = some s) :
    ∃ k p q dp dq inverse, s = rsa k ∧ k.publicKey.usable = true ∧
      fits k.publicKey.modulus k.publicKey.exponent k.secret p q dp dq inverse = true := by
  unfold readRsaSecret? at h
  obtain ⟨⟨body, rest⟩, -, h⟩ := Option.bind_eq_some_iff.1 h
  split at h
  case h_2 => cases h
  obtain ⟨⟨version, parts⟩, -, h⟩ := Option.bind_eq_some_iff.1 h
  split at h
  case h_2 => cases h
  obtain ⟨⟨n, b⟩, -, h⟩ := Option.bind_eq_some_iff.1 h
  obtain ⟨⟨e, b⟩, -, h⟩ := Option.bind_eq_some_iff.1 h
  obtain ⟨⟨d, b⟩, -, h⟩ := Option.bind_eq_some_iff.1 h
  obtain ⟨⟨p, b⟩, -, h⟩ := Option.bind_eq_some_iff.1 h
  obtain ⟨⟨q, b⟩, -, h⟩ := Option.bind_eq_some_iff.1 h
  obtain ⟨⟨dp, b⟩, -, h⟩ := Option.bind_eq_some_iff.1 h
  obtain ⟨⟨dq, b⟩, -, h⟩ := Option.bind_eq_some_iff.1 h
  obtain ⟨⟨inverse, b⟩, -, h⟩ := Option.bind_eq_some_iff.1 h
  split at h
  case h_2 => cases h
  rw [Option.ite_none_right_eq_some] at h
  obtain ⟨⟨husable, hfits⟩, h⟩ := h
  cases h
  exact ⟨⟨⟨n, e⟩, d⟩, p, q, dp, dq, _, rfl, husable, hfits⟩

/-- The published half of an RSA key that was read can be used, and the key undoes what it does if
the two factors are prime. -/
theorem inverts_of_readRsaSecret? (b : Bytes) (k : Rsa.PrivateKey)
    (h : readRsaSecret? b = some (rsa k)) : k.publicKey.usable = true ∧
      ∃ p q, k.publicKey.modulus = p * q ∧ (p.Prime → q.Prime → k.Inverts) := by
  obtain ⟨k', p, q, dp, dq, inverse, hk, husable, hfits⟩ := readRsaSecret?_eq_some b _ h
  cases hk
  refine ⟨husable, p, q, ?_, inverts_of_fits k p q dp dq inverse hfits husable⟩
  unfold fits at hfits
  simp only [Bool.and_eq_true, decide_eq_true_eq] at hfits
  obtain ⟨⟨⟨⟨⟨⟨⟨⟨⟨hmodulus, -⟩, -⟩, -⟩, -⟩, -⟩, -⟩, -⟩, -⟩, -⟩ := hfits
  exact hmodulus

end Secret

end Federation.Crypto
