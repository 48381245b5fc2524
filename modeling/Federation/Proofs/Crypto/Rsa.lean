import Federation.Crypto.Rsa
import Federation.Proofs.Bytes

/-!
# RSA with both halves of a key

Where the exponents of a key undo each other (`PrivateKey.Inverts`), the published half verifies
what the secret half signs, and the secret half unwraps what the published half wraps.

    verify k.publicKey a message (sign k a message) = true
    wrap? k.publicKey t seed key = some wrapped  →  unwrap? k t wrapped = some key

A padded message starts with a zero byte and is as long as the modulus, so its number is below the
modulus and both applications give it back.
-/

namespace Federation.Crypto.Rsa

/-! ## Powers -/

/-- The exponents undo each other on every number below the modulus. -/
def PrivateKey.Inverts (k : PrivateKey) : Prop :=
  ∀ m < k.publicKey.modulus, m ^ (k.publicKey.exponent * k.secret) % k.publicKey.modulus = m

theorem modulus_lt (k : PublicKey) : k.modulus < 256 ^ k.size :=
  Bytes.lt_pow_widthOf k.modulus

/-- A number of fewer bytes than the modulus is below it. -/
theorem pow_le_modulus (k : PublicKey) (n : Nat) (h : n < k.size) : 256 ^ n ≤ k.modulus :=
  Bytes.pow_le_of_lt_widthOf k.modulus n h

theorem zero_lt_modulus (k : PublicKey) (h : 0 < k.size) : 0 < k.modulus :=
  pow_le_modulus k 0 h

theorem length_apply (k : PublicKey) (b : Bytes) : (k.apply b).length = k.size :=
  Bytes.length_ofNat _ _

theorem length_privateApply (k : PrivateKey) (b : Bytes) :
    (k.apply b).length = k.publicKey.size :=
  Bytes.length_ofNat _ _

theorem toNat_apply (k : PublicKey) (h : 0 < k.size) (b : Bytes) :
    Bytes.toNat (k.apply b) = Bytes.toNat b ^ k.exponent % k.modulus := by
  have hlt : Bytes.toNat b ^ k.exponent % k.modulus < 256 ^ k.size :=
    Nat.lt_trans (Nat.mod_lt _ (zero_lt_modulus k h)) (modulus_lt k)
  unfold PublicKey.apply
  rw [Bytes.toNat_ofNat, Modular.power_eq, Nat.mod_eq_of_lt hlt]

theorem toNat_privateApply (k : PrivateKey) (h : 0 < k.publicKey.size) (b : Bytes) :
    Bytes.toNat (k.apply b) = Bytes.toNat b ^ k.secret % k.publicKey.modulus := by
  have hlt : Bytes.toNat b ^ k.secret % k.publicKey.modulus < 256 ^ k.publicKey.size :=
    Nat.lt_trans (Nat.mod_lt _ (zero_lt_modulus _ h)) (modulus_lt _)
  unfold PrivateKey.apply
  rw [Bytes.toNat_ofNat, Modular.power_eq, Nat.mod_eq_of_lt hlt]

section
variable (k : PrivateKey) (b : Bytes) (hlength : (0 :: b).length = k.publicKey.size)
include hlength

theorem toNat_lt_modulus : Bytes.toNat (0 :: b) < k.publicKey.modulus := by
  have hlt : Bytes.toNat b < 256 ^ b.length := Bytes.toNat_lt b
  have hle := pow_le_modulus k.publicKey b.length (by rw [← hlength]; exact Nat.lt_succ_self _)
  rw [Bytes.toNat_cons]
  simp only [UInt8.toNat_zero, Nat.zero_mul, Nat.zero_add]
  omega

variable (hk : k.Inverts)
include hk

/-- What was raised to one exponent and then to the other is as before. -/
theorem ofNat_inverts (e d : Nat) (h : e * d = k.publicKey.exponent * k.secret) :
    Bytes.ofNat k.publicKey.size (Modular.power
      (Bytes.toNat (0 :: b) ^ e % k.publicKey.modulus) d k.publicKey.modulus) = 0 :: b := by
  rw [Modular.power_eq, ← Nat.pow_mod, ← Nat.pow_mul, h,
    hk _ (toNat_lt_modulus k b hlength), ← hlength, Bytes.ofNat_toNat]

theorem apply_apply : k.apply (k.publicKey.apply (0 :: b)) = 0 :: b := by
  have hsize : 0 < k.publicKey.size := by
    rw [← hlength]
    exact Nat.succ_pos _
  unfold PrivateKey.apply
  rw [toNat_apply k.publicKey hsize]
  exact ofNat_inverts k b hlength hk _ _ rfl

theorem apply_privateApply : k.publicKey.apply (k.apply (0 :: b)) = 0 :: b := by
  have hsize : 0 < k.publicKey.size := by
    rw [← hlength]
    exact Nat.succ_pos _
  unfold PublicKey.apply
  rw [toNat_privateApply k hsize]
  exact ofNat_inverts k b hlength hk _ _ (Nat.mul_comm _ _)

end

/-! ## Signatures -/

theorem size_of_usable (k : PublicKey) (h : k.usable = true) : 256 ≤ k.size := by
  have hbits : 2048 ≤ k.bits := by
    unfold PublicKey.usable at h
    simp only [Bool.and_eq_true, decide_eq_true_eq] at h
    omega
  unfold PublicKey.bits at hbits
  unfold PublicKey.size Bytes.widthOf
  by_cases hzero : k.modulus = 0
  · rw [if_pos hzero] at hbits
    omega
  · rw [if_neg hzero] at hbits ⊢
    omega

/-- What stands before a digest is put in front of it with its zero byte. -/
theorem exists_paddedDigest (a : DigestAlgorithm) (size : Nat) (hsize : 256 ≤ size)
    (message : Bytes) :
    ∃ b, paddedDigest a size message = 0 :: b ∧ (0 :: b : Bytes).length = size := by
  refine ⟨_, rfl, ?_⟩
  have hheader : (digestHeader a).length = 19 := by
    cases a <;> rfl
  have hdigest : (a.digest message).length ≤ 64 := by
    rw [a.length_digest]
    cases a <;> decide
  show (0 :: (0x01 :: ([] ++ List.replicate _ 0xFF) ++ 0x00 :: (_ ++ _)) : Bytes).length = size
  simp only [List.length_cons, List.length_append, List.length_replicate, List.length_nil, hheader]
  omega

/-- The published half verifies what the secret half signs. -/
theorem verify_sign (k : PrivateKey) (hk : k.Inverts) (husable : k.publicKey.usable = true)
    (a : DigestAlgorithm) (message : Bytes) :
    verify k.publicKey a message (sign k a message) = true := by
  have hsize := size_of_usable k.publicKey husable
  obtain ⟨b, hb, hlength⟩ := exists_paddedDigest a k.publicKey.size hsize message
  have hpos : 0 < k.publicKey.size := by omega
  unfold verify sign
  rw [hb, apply_privateApply k b hlength hk, toNat_privateApply k hpos, length_privateApply]
  simp only [husable, decide_true, Bool.and_true, Bool.true_and, decide_eq_true_eq]
  exact Nat.mod_lt _ (zero_lt_modulus _ hpos)

/-! ## Key transport -/

theorem length_hashOf (t : KeyTransport) (b : Bytes) : (hashOf t b).length = hashSize t := by
  cases t with
  | rsaOaepMgf1p => exact Digest.length_sha1 b
  | rsaOaep => exact DigestAlgorithm.sha256.length_digest b

theorem length_mask (t : KeyTransport) (seed : Bytes) (n : Nat) :
    (mask t seed n).length = n := by
  have hpos : 0 < hashSize t := by
    cases t <;> decide
  have hhashes : (List.range (n / hashSize t + 1)).map
      (fun i => (hashOf t (seed ++ Bytes.ofNat 4 i)).length)
      = List.replicate (n / hashSize t + 1) (hashSize t) :=
    List.map_eq_replicate_iff.2 (fun _ _ => length_hashOf t _) |>.trans (by rw [List.length_range])
  have hlong : n ≤ (n / hashSize t + 1) * hashSize t := by
    rw [Nat.mul_comm, Nat.mul_succ]
    have := Nat.div_add_mod n (hashSize t)
    have := Nat.mod_lt n hpos
    omega
  unfold mask
  rw [List.length_take, List.length_flatMap, hhashes, List.sum_replicate_nat]
  exact Nat.min_eq_left hlong

section
variable (t : KeyTransport) (size : Nat) (seed key : Bytes)

/-- A key with what stands before it, all of `size` bytes but the seed and a zero byte. -/
def block : Bytes :=
  hashOf t [] ++ List.replicate (size - key.length - 2 * hashSize t - 2) 0 ++ 0x01 :: key

def maskedBlock : Bytes := Bytes.xor (block t size key) (mask t seed (size - hashSize t - 1))

def maskedSeed : Bytes := Bytes.xor seed (mask t (maskedBlock t size seed key) (hashSize t))

/-- A key is found behind its label, whatever the number of zeros. -/
theorem afterMark_block : afterMark t (block t size key) = some key := by
  unfold afterMark block
  rw [List.append_assoc, ← length_hashOf t [], List.take_left, List.drop_left, if_pos rfl,
    List.dropWhile_append_of_pos fun x hx => decide_eq_true (List.eq_of_mem_replicate hx)]
  rfl

variable (hseed : seed.length = hashSize t) (hkey : key.length + 2 * hashSize t + 2 ≤ size)

include hkey in
theorem length_block : (block t size key).length = size - hashSize t - 1 := by
  unfold block
  simp only [List.length_append, List.length_replicate, List.length_cons, length_hashOf]
  omega

include hkey in
theorem length_maskedBlock : (maskedBlock t size seed key).length = size - hashSize t - 1 := by
  unfold maskedBlock
  rw [Bytes.length_xor, length_mask, length_block t size key hkey, Nat.min_self]

include hseed in
theorem length_maskedSeed : (maskedSeed t size seed key).length = hashSize t := by
  unfold maskedSeed
  rw [Bytes.length_xor, length_mask, hseed, Nat.min_self]

include hseed in
theorem unmask_seed : Bytes.xor (maskedSeed t size seed key)
    (mask t (maskedBlock t size seed key) (hashSize t)) = seed := by
  refine Bytes.xor_xor _ _ (Nat.le_of_eq ?_)
  rw [length_mask, hseed]

include hkey in
theorem unmask_block : Bytes.xor (maskedBlock t size seed key)
    (mask t seed (size - hashSize t - 1)) = block t size key := by
  refine Bytes.xor_xor _ _ (Nat.le_of_eq ?_)
  rw [length_mask, length_block t size key hkey]

include hseed hkey in
theorem length_masked :
    (0 :: (maskedSeed t size seed key ++ maskedBlock t size seed key)).length = size := by
  rw [List.length_cons, List.length_append, length_maskedSeed t size seed key hseed,
    length_maskedBlock t size seed key hkey]
  omega

end

theorem wrap?_eq_some (k : PublicKey) (t : KeyTransport) (seed key wrapped : Bytes) :
    wrap? k t seed key = some wrapped ↔ key.length + 2 * hashSize t + 2 ≤ k.size ∧
      k.apply (0 :: (maskedSeed t k.size seed key ++ maskedBlock t k.size seed key))
        = wrapped := by
  show (if _ then some (k.apply (0 :: (maskedSeed t k.size seed key ++ _))) else none) = _ ↔ _
  rw [Option.ite_none_right_eq_some, Option.some.injEq]
  rfl

/-- The secret half unwraps what the published half wraps. -/
theorem unwrap?_wrap? (k : PrivateKey) (hk : k.Inverts) (t : KeyTransport)
    (seed key wrapped : Bytes) (hseed : seed.length = hashSize t)
    (h : wrap? k.publicKey t seed key = some wrapped) : unwrap? k t wrapped = some key := by
  obtain ⟨hkey, rfl⟩ := (wrap?_eq_some ..).1 h
  have hpos : 0 < k.publicKey.size := by omega
  have hopened := apply_apply k _ (length_masked t k.publicKey.size seed key hseed hkey) hk
  have hhead := length_maskedSeed t k.publicKey.size seed key hseed
  unfold unwrap?
  rw [if_pos, hopened]
  · show afterMark t (Bytes.xor (List.drop _ (_ ++ _)) (mask t (Bytes.xor (List.take _ (_ ++ _))
      (mask t (List.drop _ (_ ++ _)) _)) _)) = _
    rw [List.drop_left' hhead, List.take_left' hhead, unmask_seed t _ seed key hseed,
      unmask_block t _ seed key hkey, afterMark_block]
  · refine ⟨length_apply _ _, ?_, by omega⟩
    rw [toNat_apply _ hpos]
    exact Nat.mod_lt _ (zero_lt_modulus _ hpos)

end Federation.Crypto.Rsa
