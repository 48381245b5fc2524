import Federation.Crypto.Generation
import Federation.Proofs.Crypto.Suite
import Mathlib.Tactic.NormNum.Prime

/-!
# New RSA keys

A key that is made of two primes is taken: its parts fit, so it is read back as it was written out,
and its exponents undo each other. The numbers that the search for primes answers have their two
highest bits set, so two of them make a key of full length.

    generateRsa random bits = ok (ofPrimes p q)

The search only tests its numbers; that they are primes is a condition here, and that the second is
not the first.
-/

namespace Federation.Crypto

namespace Secret

theorem prime_exponent : exponent.Prime := by
  unfold exponent
  norm_num

/-! ## Two primes -/

/-- The RSA key of two primes, as it is written out when it is new. -/
def ofPrimes (p q : Nat) : Rsa.PrivateKey where
  publicKey := ⟨p * q, exponent⟩
  secret :=
    let m := (p - 1) * (q - 1)
    (1 + m * (exponent - Modular.inverse m exponent)) / exponent

section
variable (p q : Nat) (hpe : (p - 1) % exponent ≠ 0) (hqe : (q - 1) % exponent ≠ 0)
include hpe hqe

theorem inverse_mul_exponent :
    Modular.inverse ((p - 1) * (q - 1)) exponent * ((p - 1) * (q - 1)) % exponent = 1 := by
  refine Modular.inverse_mul _ exponent prime_exponent ?_
  rw [prime_exponent.dvd_mul]
  rintro (h | h)
  · exact hpe (Nat.mod_eq_zero_of_dvd h)
  · exact hqe (Nat.mod_eq_zero_of_dvd h)

/-- The quotient that makes the secret exponent leaves no remainder. -/
theorem exponent_mul_secret : exponent * (ofPrimes p q).secret = 1 + (p - 1) * (q - 1) *
    (exponent - Modular.inverse ((p - 1) * (q - 1)) exponent) := by
  have hinverse := inverse_mul_exponent p q hpe hqe
  have hlt := Modular.inverse_lt ((p - 1) * (q - 1)) exponent (by decide)
  refine Nat.mul_div_cancel' ?_
  generalize (p - 1) * (q - 1) = m at *
  generalize Modular.inverse m exponent = i at *
  have hsum : m * (exponent - i) + i * m = m * exponent := by
    rw [Nat.mul_comm i, ← Nat.mul_add, Nat.sub_add_cancel (Nat.le_of_lt hlt)]
  have hdiv := Nat.div_add_mod (i * m) exponent
  rw [hinverse] at hdiv
  -- with `i * m - 1`, which the exponent divides, the dividend makes `m * exponent`
  refine (Nat.dvd_add_left (Dvd.intro (i * m / exponent) rfl)).1 ⟨m, ?_⟩
  rw [Nat.mul_comm exponent m, ← hsum]
  omega

theorem secret_lt (hp : 2 ≤ p) (hq : 2 ≤ q) : (ofPrimes p q).secret < p * q := by
  have hmul := exponent_mul_secret p q hpe hqe
  have hinverse := inverse_mul_exponent p q hpe hqe
  have hlt := Modular.inverse_lt ((p - 1) * (q - 1)) exponent (by decide)
  have hm : (p - 1) * (q - 1) < p * q :=
    Nat.mul_lt_mul_of_lt_of_le (by omega) (by omega) (by omega)
  refine Nat.lt_of_mul_lt_mul_left (a := exponent) ?_
  rw [hmul]
  generalize (p - 1) * (q - 1) = m at *
  generalize Modular.inverse m exponent = i at *
  have hpos : 0 < i * m := by
    refine Nat.pos_of_ne_zero fun h => ?_
    rw [h] at hinverse
    cases hinverse
  have hsum : m * (exponent - i) + i * m = m * exponent := by
    rw [Nat.mul_comm i, ← Nat.mul_add, Nat.sub_add_cancel (Nat.le_of_lt hlt)]
  calc 1 + m * (exponent - i) ≤ m * exponent := by omega
    _ < p * q * exponent := Nat.mul_lt_mul_of_pos_right hm (by decide)
    _ = exponent * (p * q) := Nat.mul_comm _ _

/-- The parts of the key that two primes make fit. -/
theorem fits_ofPrimes (hp : p.Prime) (hq : q.Prime) (hne : p ≠ q) :
    fits (p * q) exponent (ofPrimes p q).secret p q
      ((ofPrimes p q).secret % (p - 1)) ((ofPrimes p q).secret % (q - 1)) (Modular.inverse q p)
      = true := by
  have hmul := exponent_mul_secret p q hpe hqe
  have hlt := secret_lt p q hpe hqe hp.two_le hq.two_le
  have hinverse := Modular.inverse_mul q p hp fun h => hne ((Nat.prime_dvd_prime_iff_eq hp hq).1 h)
  have hmodp : exponent * (ofPrimes p q).secret % (p - 1) = 1 % (p - 1) := by
    rw [hmul, Nat.mul_assoc, Nat.add_mul_mod_self_left]
  have hmodq : exponent * (ofPrimes p q).secret % (q - 1) = 1 % (q - 1) := by
    rw [hmul, Nat.mul_comm (p - 1), Nat.mul_assoc, Nat.add_mul_mod_self_left]
  unfold fits
  simp only [Bool.and_eq_true, decide_eq_true_eq]
  exact ⟨⟨⟨⟨⟨⟨⟨⟨⟨trivial, hp.one_lt⟩, hq.one_lt⟩, hlt⟩, hmodp⟩, hmodq⟩, trivial⟩, trivial⟩,
    Modular.inverse_lt q p hp.pos⟩, hinverse⟩

end

/-! ## Read back -/

theorem length_flatMap_unsigned (parts : List Nat) (h : ∀ x ∈ parts, x.log2 < 8192) :
    (parts.flatMap Der.unsigned).length ≤ 2 ^ 11 * parts.length := by
  induction parts with
  | nil => exact Nat.le_refl 0
  | cons x parts ih =>
    obtain ⟨hx, hparts⟩ := List.forall_mem_cons.1 h
    have hlength := Der.length_unsigned x (by omega)
    have := ih hparts
    rw [List.flatMap_cons, List.length_append, List.length_cons]
    omega

section
variable (k : Rsa.PrivateKey) (p q dp dq inverse : Nat)
  (h : fits k.publicKey.modulus k.publicKey.exponent k.secret p q dp dq inverse = true)
  (husable : k.publicKey.usable = true)
include h husable

/-- No part of a key that can be used is longer than the modulus. -/
theorem log2_of_fits : ∀ x ∈ [0, k.publicKey.modulus, k.publicKey.exponent, k.secret, p, q, dp, dq,
    inverse], x.log2 < 8192 := by
  obtain ⟨hmodulus, hexponent⟩ := log2_of_usable k.publicKey husable
  have hbound : ∀ x ≤ k.publicKey.modulus, x.log2 < 8192 := by
    intro x hx
    by_cases hzero : x = 0
    · rw [hzero]
      decide
    · exact Nat.lt_of_le_of_lt
        ((Nat.le_log2 (by omega)).2 (Nat.le_trans (Nat.log2_self_le hzero) hx)) hmodulus
  unfold fits at h
  simp only [Bool.and_eq_true, decide_eq_true_eq] at h
  obtain ⟨⟨⟨⟨⟨⟨⟨⟨⟨hproduct, hp⟩, hq⟩, hsecret⟩, -⟩, -⟩, rfl⟩, rfl⟩, hinverse⟩, -⟩ := h
  have hple : p ≤ k.publicKey.modulus := hproduct ▸ Nat.le_mul_of_pos_right p (by omega)
  have hqle : q ≤ k.publicKey.modulus := hproduct ▸ Nat.le_mul_of_pos_left q (by omega)
  have hdp := Nat.mod_le k.secret (p - 1)
  have hdq := Nat.mod_le k.secret (q - 1)
  simp only [List.forall_mem_cons]
  exact ⟨by decide, hmodulus, by omega, hbound _ (by omega), hbound _ hple, hbound _ hqle,
    hbound _ (by omega), hbound _ (by omega), hbound _ (by omega), nofun⟩

theorem readRsaSecret?_item : readRsaSecret? (Der.item Der.sequence
    ([0, k.publicKey.modulus, k.publicKey.exponent, k.secret, p, q, dp, dq, inverse].flatMap
      Der.unsigned)) = some (rsa k) := by
  have hlog2 := log2_of_fits k p q dp dq inverse h husable
  have hlength := length_flatMap_unsigned _ hlog2
  have hsequence := Der.tagged?_item Der.sequence _ [] (Nat.lt_of_le_of_lt hlength (by simp))
    (by decide)
  rw [List.append_nil] at hsequence
  rw [readRsaSecret?, hsequence]
  have hread (x : Nat) (hx : x.log2 < 8192) (rest : Bytes) :
      Der.unsignedItem? (Der.unsigned x ++ rest) = some (x, rest) :=
    Der.unsignedItem?_unsigned x rest (by omega)
  simp only [List.forall_mem_cons] at hlog2
  obtain ⟨h0, hn, he, hd, hp, hq, hdp, hdq, hinverse, -⟩ := hlog2
  simp only [Option.bind_eq_bind, Option.bind_some, List.flatMap_cons, List.flatMap_nil, hread _ h0,
    hread _ hn, hread _ he, hread _ hd, hread _ hp, hread _ hq, hread _ hdp, hread _ hdq,
    hread _ hinverse]
  exact if_pos ⟨husable, h⟩

end

/-- A secret key in PKCS #8 with nothing after it. -/
theorem read?_rsa (key : Bytes) (h : key.length < 2 ^ 63) :
    read? (Der.item Der.sequence (Der.unsigned 0 ++ AlgorithmId.encode .rsa
      ++ Der.item Der.octetString key)) = readRsaSecret? key := by
  have hkey := Der.length_item Der.octetString key (by omega)
  have halgorithm := AlgorithmId.length_encode .rsa
  have hzero : (Der.unsigned 0).length = 3 := by decide
  have houter := Der.tagged?_item Der.sequence (Der.unsigned 0 ++ AlgorithmId.encode .rsa
    ++ Der.item Der.octetString key) [] (by simp only [List.length_append]; omega) (by decide)
  have hoctets := Der.tagged?_item Der.octetString key [] (by omega) (by decide)
  rw [List.append_nil] at houter hoctets
  have hsequence (rest : Bytes) : Der.tagged? Der.sequence (AlgorithmId.encode .rsa ++ rest)
      = some (ObjectId.rsa.item ++ Der.item Der.null [], rest) :=
    Der.tagged?_item Der.sequence _ rest (by decide +kernel) (by decide)
  have hfamily : readFamily? (ObjectId.rsa.item ++ Der.item Der.null []) = some .rsa := by
    decide +kernel
  rw [read?, houter]
  simp only [Option.bind_eq_bind, Option.bind_some, List.append_assoc, hsequence, hoctets, hfamily,
    Der.unsignedItem?_unsigned 0 _ (by decide : (0 : Nat).log2 < 2 ^ 64)]
  rfl

end Secret

/-! ## The search -/

theorem Prime.search?_eq_some (suits : Nat → Bool) (fuel n p : Nat)
    (h : search? suits fuel n = some p) :
    n ≤ p ∧ p < n + 2 * fuel ∧ p % 2 = n % 2 ∧ suits p = true := by
  induction fuel generalizing n with
  | zero => cases h
  | succ fuel ih =>
    unfold search? at h
    split at h
    · next hsuits =>
      cases h
      exact ⟨Nat.le_refl _, by omega, rfl, (Bool.and_eq_true_iff.1 hsuits).1⟩
    · obtain ⟨hle, hlt, hmod, hsuits⟩ := ih (n + 2) h
      exact ⟨by omega, by omega, by omega, hsuits⟩

namespace Secret

/-- What the search is after: a number that may just pass the size, since it starts below that, and
whose predecessor the public exponent does not divide. -/
structure Suits (bits p : Nat) : Prop where
  low : 3 * 2 ^ (bits - 2) ≤ p
  high : p < 2 ^ (bits + 1)
  odd : p % 2 = 1
  coprime : (p - 1) % exponent ≠ 0

/-- The start has the two highest bits of its size set, and the lowest. -/
theorem start_bounds (drawn bits : Nat) (hbits : 2 ≤ bits) (h : drawn < 2 ^ bits) :
    3 * 2 ^ (bits - 2) ≤ drawn ||| 2 ^ (bits - 1) ||| 2 ^ (bits - 2) ||| 1 ∧
      (drawn ||| 2 ^ (bits - 1) ||| 2 ^ (bits - 2) ||| 1) < 2 ^ bits ∧
      (drawn ||| 2 ^ (bits - 1) ||| 2 ^ (bits - 2) ||| 1) % 2 = 1 := by
  have hfirst : 2 ^ (bits - 1) < 2 ^ bits := Nat.pow_lt_pow_right (by decide) (by omega)
  have hsecond : 2 ^ (bits - 2) < 2 ^ bits := Nat.pow_lt_pow_right (by decide) (by omega)
  have hone : 1 < 2 ^ bits := Nat.one_lt_two_pow (by omega)
  refine ⟨?_, Nat.or_lt_two_pow (Nat.or_lt_two_pow (Nat.or_lt_two_pow h hfirst) hsecond) hone, ?_⟩
  · have hsum : 3 * 2 ^ (bits - 2) = 2 ^ (bits - 1) ||| 2 ^ (bits - 2) := by
      have hlt : 2 ^ (bits - 2) < 2 ^ (bits - 1) := Nat.pow_lt_pow_right (by decide) (by omega)
      have hadd := Nat.two_pow_add_eq_or_of_lt hlt 1
      rw [Nat.mul_one] at hadd
      rw [← hadd, show bits - 1 = bits - 2 + 1 by omega, Nat.pow_succ]
      omega
    rw [hsum, Nat.or_assoc drawn, Nat.or_comm drawn, Nat.or_assoc]
    exact Nat.left_le_or
  · rw [Nat.or_mod_two_eq_one]
    exact Or.inr rfl

theorem suits_of_prime? (random : Random) (purpose : Purpose) (bits p : Nat)
    (hbits : bits ∈ [1024, 1536, 2048]) (h : prime? random purpose bits = some p) :
    Suits bits p := by
  have hsizes : ∀ bits ∈ [1024, 1536, 2048],
      8 * (bits / 8) = bits ∧ 2 ≤ bits ∧ 2 * (64 * bits) ≤ 2 ^ bits := by
    decide +kernel
  obtain ⟨hbytes, htwo, hfuel⟩ := hsizes bits hbits
  have hdrawn := Bytes.toNat_lt (random.bytes purpose (bits / 8))
  rw [Random.length_bytes, show 256 = 2 ^ 8 from rfl, ← Nat.pow_mul, hbytes] at hdrawn
  obtain ⟨hlow, hhigh, hodd⟩ := start_bounds _ bits htwo hdrawn
  obtain ⟨hle, hlt, hmod, hsuits⟩ := Prime.search?_eq_some _ _ _ p h
  refine ⟨Nat.le_trans hlow hle, ?_, hmod.trans hodd, bne_iff_ne.1 hsuits⟩
  rw [Nat.pow_succ]
  omega

/-- Two such numbers multiply to one of full length. -/
theorem usable_ofPrimes (bits p q : Nat) (hbits : bits ∈ [1024, 1536, 2048]) (hp : Suits bits p)
    (hq : Suits bits q) :
    2 ^ (2 * bits - 1) ≤ p * q ∧ (ofPrimes p q).publicKey.usable = true := by
  have hsizes : ∀ bits ∈ [1024, 1536, 2048],
      2 ^ (2 * bits - 1) ≤ 3 * 2 ^ (bits - 2) * (3 * 2 ^ (bits - 2)) ∧
        2048 ≤ 2 * bits ∧ 2 * (bits + 1) ≤ 8192 := by
    decide +kernel
  obtain ⟨hlow, hsize, hhigh⟩ := hsizes bits hbits
  have hfull : 2 ^ (2 * bits - 1) ≤ p * q := Nat.le_trans hlow (Nat.mul_le_mul hp.low hq.low)
  have htop : p * q < 2 ^ (2 * (bits + 1)) := by
    rw [Nat.two_mul, Nat.pow_add]
    exact Nat.mul_lt_mul'' hp.high hq.high
  have hne : p * q ≠ 0 := Nat.ne_of_gt (Nat.lt_of_lt_of_le (Nat.two_pow_pos _) hfull)
  have hleast := (Nat.le_log2 hne).2 hfull
  have hmost := (Nat.log2_lt hne).2 htop
  refine ⟨hfull, ?_⟩
  unfold Rsa.PublicKey.usable Rsa.PublicKey.bits ofPrimes
  simp only [Bool.and_eq_true, decide_eq_true_eq, if_neg hne]
  refine ⟨⟨⟨⟨⟨by omega, by omega⟩, ?_⟩, by decide⟩, by decide⟩, by decide⟩
  rw [Nat.mul_mod, hp.odd, hq.odd]

end Secret

/-! ## Credentials -/

namespace PrivateCredential

/-- The credential of an RSA key of two primes. -/
def ofPrimes (p q : Nat) : PrivateCredential where
  pkcs8 := Secret.encodeRsa p q
  secret := .rsa (Secret.ofPrimes p q)
  publicHalf := .ofRsa (Secret.ofPrimes p q)

/-- A key that two primes make is read back as it was written out, and its exponents undo each
other, if the primes differ, their product can be used as a modulus and the public exponent divides
neither of their predecessors. -/
theorem ofPkcs8_encodeRsa (p q : Nat) (hp : p.Prime) (hq : q.Prime) (hne : p ≠ q)
    (hpe : (p - 1) % Secret.exponent ≠ 0) (hqe : (q - 1) % Secret.exponent ≠ 0)
    (husable : (Secret.ofPrimes p q).publicKey.usable = true) :
    ofPkcs8 (Secret.encodeRsa p q) = .ok (ofPrimes p q) ∧ (Secret.ofPrimes p q).Inverts := by
  have hfits := Secret.fits_ofPrimes p q hpe hqe hp hq hne
  refine ⟨?_, Secret.inverts_of_fits (Secret.ofPrimes p q) p q _ _ _ hfits husable hp hq⟩
  have hkey := Secret.readRsaSecret?_item (Secret.ofPrimes p q) p q _ _ _ hfits husable
  have hlength : (Der.item Der.sequence ([0, p * q, Secret.exponent, (Secret.ofPrimes p q).secret,
      p, q, (Secret.ofPrimes p q).secret % (p - 1), (Secret.ofPrimes p q).secret % (q - 1),
      Modular.inverse q p].flatMap Der.unsigned)).length < 2 ^ 63 := by
    have hparts := Secret.length_flatMap_unsigned _
      (Secret.log2_of_fits (Secret.ofPrimes p q) p q _ _ _ hfits husable)
    have hitem := Der.length_item Der.sequence _ (Nat.lt_of_le_of_lt hparts (by simp))
    refine Nat.lt_of_le_of_lt hitem (Nat.lt_of_le_of_lt (Nat.add_le_add_right hparts 10) (by simp))
  have hread : Secret.read? (Secret.encodeRsa p q) = some (.rsa (Secret.ofPrimes p q)) :=
    (Secret.read?_rsa _ hlength).trans hkey
  rw [ofPkcs8, hread]
  show PublicCredential.ofKeyInfo (Secret.rsa (Secret.ofPrimes p q)).keyInfo >>= _ = _
  rw [PublicCredential.ofKeyInfo_rsa _ husable]
  rfl

theorem sound_ofPrimes (p q : Nat) (hp : p.Prime) (hq : q.Prime) (hne : p ≠ q)
    (hpe : (p - 1) % Secret.exponent ≠ 0) (hqe : (q - 1) % Secret.exponent ≠ 0)
    (husable : (Secret.ofPrimes p q).publicKey.usable = true) :
    (ofPrimes p q).Sound (Secret.ofPrimes p q) := by
  obtain ⟨hread, hinverts⟩ := ofPkcs8_encodeRsa p q hp hq hne hpe hqe husable
  exact ⟨.pkcs8 _ _ hread, rfl, hinverts⟩

/-! ## Main result -/

/-- **Generation.** If the numbers that the search finds are two primes, they make a key of full
length that is taken, and its exponents undo each other. -/
theorem generateRsa_eq_ok (random : Random) (bits p q : Nat) (hbits : bits ∈ [2048, 3072, 4096])
    (hfirst : Secret.prime? random .firstPrime (bits / 2) = some p)
    (hsecond : Secret.prime? random .secondPrime (bits / 2) = some q)
    (hp : p.Prime) (hq : q.Prime) (hne : p ≠ q) :
    generateRsa random bits = .ok (ofPrimes p q) ∧
      (ofPrimes p q).Sound (Secret.ofPrimes p q) ∧ 2 ^ (bits - 1) ≤ p * q := by
  have hsizes : ∀ bits ∈ [2048, 3072, 4096],
      bits / 2 ∈ [1024, 1536, 2048] ∧ 2 * (bits / 2) = bits := by
    decide
  obtain ⟨hhalf, htwice⟩ := hsizes bits hbits
  have hpsuits := Secret.suits_of_prime? random _ _ p hhalf hfirst
  have hqsuits := Secret.suits_of_prime? random _ _ q hhalf hsecond
  obtain ⟨hfull, husable⟩ := Secret.usable_ofPrimes _ p q hhalf hpsuits hqsuits
  rw [htwice] at hfull
  refine ⟨?_, sound_ofPrimes p q hp hq hne hpsuits.coprime hqsuits.coprime husable, hfull⟩
  unfold generateRsa
  rw [if_pos (List.contains_iff_mem.2 hbits), hfirst, hsecond]
  exact (ofPkcs8_encodeRsa p q hp hq hne hpsuits.coprime hqsuits.coprime husable).1

/-! ## Two keys -/

/-- One above a small multiple of a large power of two. -/
def samplePrime (a : Nat) : Nat := a * 2 ^ (1007 + 1) + 1

def samplePrimes : List Nat := [65161, 64471, 62671, 61351]

theorem prime_samplePrime : ∀ a ∈ samplePrimes, (samplePrime a).Prime := by
  have hpower : ∀ a ∈ samplePrimes, 0 < a ∧ a < 2 ^ (1007 + 1) ∧
      Modular.power 3 (a * 2 ^ 1007) (a * 2 ^ (1007 + 1) + 1) = a * 2 ^ (1007 + 1) := by
    decide +kernel
  intro a ha
  obtain ⟨hpos, hlt, hpower⟩ := hpower a ha
  exact prime_of_power a 1007 3 hpos hlt hpower

/-- The key of two of the primes. -/
def sampleRsa (a b : Nat) : Rsa.PrivateKey := Secret.ofPrimes (samplePrime a) (samplePrime b)

theorem sound_sampleRsa (a b : Nat) (ha : a ∈ samplePrimes) (hb : b ∈ samplePrimes) (hne : a ≠ b) :
    (ofPrimes (samplePrime a) (samplePrime b)).Sound (sampleRsa a b) := by
  have hexponent : ∀ a ∈ samplePrimes, (samplePrime a - 1) % Secret.exponent ≠ 0 := by
    decide +kernel
  have husable : ∀ a ∈ samplePrimes, ∀ b ∈ samplePrimes,
      (sampleRsa a b).publicKey.usable = true := by
    decide +kernel
  refine sound_ofPrimes _ _ (prime_samplePrime a ha) (prime_samplePrime b hb) ?_ (hexponent a ha)
    (hexponent b hb) (husable a ha b hb)
  unfold samplePrime
  exact fun h => hne (Nat.eq_of_mul_eq_mul_right (Nat.two_pow_pos _) (Nat.succ.inj h))

/-- Two keys of full length; who signs holds the one, and who decrypts the other. -/
@[irreducible]
def sampleSigner : PrivateCredential := ofPrimes (samplePrime 65161) (samplePrime 64471)

@[irreducible]
def sampleHolder : PrivateCredential := ofPrimes (samplePrime 62671) (samplePrime 61351)

theorem sound_sampleSigner : sampleSigner.Sound (sampleRsa 65161 64471) := by
  unfold sampleSigner
  exact sound_sampleRsa 65161 64471 (by decide) (by decide) (by decide)

theorem sound_sampleHolder : sampleHolder.Sound (sampleRsa 62671 61351) := by
  unfold sampleHolder
  exact sound_sampleRsa 62671 61351 (by decide) (by decide) (by decide)

theorem signs_sampleSigner : Suite.standard.Signs sampleSigner :=
  Suite.signs_standard _ _ sound_sampleSigner

theorem seals_sampleHolder : Suite.standard.Seals sampleHolder.publicHalf := by
  have husable := sound_sampleHolder.usable
  unfold sampleHolder
  exact Suite.seals_ofRsa _ husable

theorem opens_sampleHolder : Suite.standard.Opens sampleHolder sampleHolder.publicHalf :=
  Suite.opens_standard _ _ sound_sampleHolder _ (read_of_built _ sound_sampleHolder.built)
    (PublicCredential.sameKey_refl _)

end PrivateCredential

end Federation.Crypto
