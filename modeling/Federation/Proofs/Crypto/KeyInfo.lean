import Federation.Crypto.Secret
import Federation.Proofs.Crypto.Der
import Federation.Proofs.Result

/-!
# Published keys read back

A published key is read as the key that was written, and so are the bits of an RSA key. All of them
are short enough for the loose reading.

    KeyInfo.decode (KeyInfo.encode f key) = ok (f, key)
    publishedRsa? (rsa k).keyInfo = some k.publicKey, for keys that can be used
-/

namespace Federation.Crypto

open Der (item read?_item numbered?_item partOf)

/-! ## Algorithms -/

namespace AlgorithmId

theorem parameters?_item (tag : UInt8) (body : Bytes) (h : body.length < 2 ^ 64)
    (htag : Der.number tag ≠ 31) : parameters? (item tag body) = some (some body) := by
  have hread := read?_item tag body [] h htag
  rw [List.append_nil] at hread
  rw [parameters?, hread]
  rfl

/-- An algorithm is read as its identifier and the body of its parameters. -/
theorem read?_item (id : ObjectId) (tag : UInt8) (body rest : Bytes)
    (hid : id.encode.length < 256) (hbody : body.length < 256) (htag : Der.number tag ≠ 31) :
    read? (item Der.sequence (id.item ++ item tag body) ++ rest)
      = some (⟨id.encode, some body⟩, rest) := by
  have hitem := Der.length_item Der.objectId id.encode (by omega)
  have hparameters := Der.length_item tag body (by omega)
  have hlength : (id.item ++ item tag body).length < 2 ^ 64 := by
    rw [List.length_append]
    unfold ObjectId.item
    omega
  have hread : Der.Part.read? (id.item ++ item tag body)
      = some (partOf Der.objectId id.encode (item tag body)) :=
    Der.read?_item Der.objectId id.encode _ (by omega) (by decide)
  have hsimple := Der.simple?_partOf Der.objectId id.encode (item tag body) (by decide)
  rw [read?, numbered?_item Der.sequence _ rest hlength (by decide)]
  simp only [Option.bind_eq_bind, Option.bind_some, Der.partOf_body, Der.partOf_rest, hread,
    hsimple, parameters?_item tag body (by omega) htag, Option.pure_def]

theorem family_rsa (parameters : Option Bytes) :
    family ⟨ObjectId.rsa.encode, parameters⟩ = .ok .rsa := by
  unfold family
  rw [ObjectId.read?_encode ObjectId.rsa (by decide)]
  rfl

theorem family_ec (curve : ObjectId) :
    family ⟨ObjectId.ec.encode, some curve.encode⟩ = curveFamily (some curve.encode) := by
  unfold family
  rw [ObjectId.read?_encode ObjectId.ec (by decide)]
  rfl

theorem curveFamily_p256 : curveFamily (some ObjectId.p256.encode) = .ok .ecP256 := by
  unfold curveFamily
  simp only [ObjectId.read?_encode ObjectId.p256 (by decide)]
  rfl

theorem curveFamily_p384 : curveFamily (some ObjectId.p384.encode) = .ok .ecP384 := by
  unfold curveFamily
  simp only [ObjectId.read?_encode ObjectId.p384 (by decide)]
  rfl

/-- The algorithm of a kind of key is read as one of that kind. -/
theorem read?_encode (f : KeyFamily) (rest : Bytes) :
    ∃ a, read? (encode f ++ rest) = some (a, rest) ∧ a.family = .ok f := by
  cases f with
  | rsa =>
    exact ⟨_, read?_item ObjectId.rsa Der.null [] rest (by decide +kernel) (by decide) (by decide),
      family_rsa _⟩
  | ecP256 =>
    exact ⟨_, read?_item ObjectId.ec Der.objectId _ rest (by decide +kernel) (by decide +kernel)
      (by decide), (family_ec _).trans curveFamily_p256⟩
  | ecP384 =>
    exact ⟨_, read?_item ObjectId.ec Der.objectId _ rest (by decide +kernel) (by decide +kernel)
      (by decide), (family_ec _).trans curveFamily_p384⟩

theorem length_encode (f : KeyFamily) : (encode f).length ≤ 256 := by
  cases f <;> decide +kernel

end AlgorithmId

/-! ## Published keys -/

namespace KeyInfo

variable (f : KeyFamily) (key : Bytes) (h : key.length < 2 ^ 63)
include h

theorem read?_encode (rest : Bytes) :
    ∃ info size, read? (encode f key ++ rest) = some (info, size, rest) ∧
      info.key = key ∧ info.algorithm.family = .ok f := by
  obtain ⟨a, ha, hfamily⟩ := AlgorithmId.read?_encode f (Der.bitsItem key)
  have hlength := AlgorithmId.length_encode f
  have hbits := Der.length_item Der.bitString (0 :: key) (by rw [List.length_cons]; omega)
  rw [List.length_cons] at hbits
  have hbody : (AlgorithmId.encode f ++ Der.bitsItem key).length < 2 ^ 64 := by
    rw [List.length_append]
    unfold Der.bitsItem
    omega
  have hkey : Der.Part.numbered? Der.bitString (Der.bitsItem key)
      = some (partOf Der.bitString (0 :: key) []) := by
    have hread := numbered?_item Der.bitString (0 :: key) [] (by rw [List.length_cons]; omega)
      (by decide)
    rwa [List.append_nil] at hread
  refine ⟨⟨a, key⟩, (encode f key ++ rest).length - rest.length - 0, ?_, rfl, hfamily⟩
  rw [read?]
  unfold encode
  rw [numbered?_item Der.sequence _ rest hbody (by decide)]
  simp only [Option.bind_eq_bind, Option.bind_some, Der.partOf_body, Der.partOf_rest, ha, hkey,
    Der.bits?_partOf, Option.pure_def, List.length_nil]

theorem decode_encode : decode (encode f key) = .ok (f, key) := by
  obtain ⟨info, size, hread, hkey, hfamily⟩ := read?_encode f key h []
  rw [List.append_nil] at hread
  rw [decode, hread]
  show info.algorithm.family.map _ = _
  rw [hfamily, hkey]
  rfl

theorem canonical?_encode : canonical? f (encode f key) = some key := by
  obtain ⟨info, size, hread, hkey, -⟩ := read?_encode f key h []
  rw [List.append_nil] at hread
  rw [canonical?, hread]
  show (if (encode f info.key).isPrefixOf (encode f key) then some info.key else none) = _
  rw [hkey, if_pos (List.isPrefixOf_iff_prefix.2 (List.prefix_refl _))]

omit h in
/-- The strict reading answers the bits that the loose one does. -/
theorem canonical?_of_decode (b bits : Bytes) (g : KeyFamily) (hdecode : decode b = .ok (f, key))
    (hbits : canonical? g b = some bits) : bits = key := by
  obtain ⟨⟨info, more⟩, hread, hbits⟩ := Option.bind_eq_some_iff.1 hbits
  rw [decode, hread] at hdecode
  obtain ⟨_, -, heq⟩ := (except_map_eq_ok ..).1 hdecode
  obtain ⟨-, hbits⟩ := Option.ite_none_right_eq_some.1 hbits
  exact (Option.some.inj hbits).symm.trans (congrArg Prod.snd heq)

end KeyInfo

/-! ## RSA -/

namespace Secret

section
variable (k : Rsa.PublicKey) (h : k.usable = true)
include h

theorem log2_of_usable : k.modulus.log2 < 8192 ∧ k.exponent.log2 < 64 := by
  unfold Rsa.PublicKey.usable Rsa.PublicKey.bits at h
  simp only [Bool.and_eq_true, decide_eq_true_eq] at h
  obtain ⟨⟨⟨⟨⟨hlow, hhigh⟩, -⟩, -⟩, hexponent⟩, hlt⟩ := h
  constructor
  · split at hhigh
    · next hzero =>
      rw [hzero]
      decide
    · omega
  · exact (Nat.log2_lt (by omega)).2 (Nat.lt_trans hlt (by decide))

theorem length_numbers :
    (Der.unsigned k.modulus ++ Der.unsigned k.exponent).length < 2 ^ 16 := by
  obtain ⟨hmodulus, hexponent⟩ := log2_of_usable k h
  have hfirst := Der.length_unsigned k.modulus (by omega)
  have hsecond := Der.length_unsigned k.exponent (by omega)
  rw [List.length_append]
  omega

theorem readRsa?_rsaBits (rest : Bytes) : readRsa? (rsaBits k ++ rest) = some (k, rest) := by
  obtain ⟨hmodulus, hexponent⟩ := log2_of_usable k h
  have hlength := length_numbers k h
  have hlast := Der.unsignedItem?_unsigned k.exponent [] (by omega)
  rw [List.append_nil] at hlast
  rw [readRsa?, rsaBits, Der.tagged?_item Der.sequence _ rest (by omega) (by decide)]
  simp only [Option.bind_eq_bind, Option.bind_some, Der.unsignedItem?_unsigned k.modulus _
    (by omega : k.modulus.log2 < 2 ^ 64), hlast, Option.pure_def]

theorem length_rsaBits : (rsaBits k).length < 2 ^ 17 := by
  have hlength := length_numbers k h
  have hitem := Der.length_item Der.sequence (Der.unsigned k.modulus ++ Der.unsigned k.exponent)
    (by omega)
  unfold rsaBits
  omega

end

/-- An RSA key is published in its exact form. -/
theorem publishedRsa?_keyInfo (k : Rsa.PrivateKey) (h : k.publicKey.usable = true) :
    publishedRsa? (rsa k).keyInfo = some k.publicKey := by
  have hlength := length_rsaBits k.publicKey h
  have hread := readRsa?_rsaBits k.publicKey h []
  rw [List.append_nil] at hread
  have hbits : KeyInfo.canonical? .rsa (rsa k).keyInfo = some (rsaBits k.publicKey) :=
    KeyInfo.canonical?_encode .rsa (rsaBits k.publicKey) (by omega)
  rw [publishedRsa?, hbits]
  simp only [Option.bind_eq_bind, Option.bind_some, hread, Option.pure_def]

end Secret

end Federation.Crypto
