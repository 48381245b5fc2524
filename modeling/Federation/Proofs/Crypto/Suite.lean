import Federation.Crypto.Suite
import Federation.Proofs.Crypto.Gcm
import Federation.Proofs.Crypto.RsaCredential
import Federation.Proofs.Result

/-!
# What is relied on about a suite

Five properties of a suite carry what is proved about messages: verification depends on the bits of
a key alone (`VerifiesByBits`), a public key verifies what its private one signs (`Pairs`), a
private key signs whatever it is given, for all copies of its public one (`Signs`), a public key
seals every text (`Seals`), and a private one opens what was encrypted for it (`Opens`).

The standard suite has the first, and the others for RSA credentials that were read and whose
exponents undo each other.

    verifiesByBits_standard, pairs_standard, signs_standard, seals_standard, opens_standard
-/

namespace Federation.Crypto.Suite

/-- Verification looks at the kind and the bits of a key only. -/
def VerifiesByBits (suite : Suite) : Prop :=
  ∀ a b : PublicCredential, a.sameKey b = true → suite.verify a = suite.verify b

/-- A public key verifies what a private one signs. -/
def Pairs (suite : Suite) (c : PrivateCredential) (key : PublicCredential) : Prop :=
  ∀ message value, suite.sign c c.family.signatureAlgorithm message = .ok value →
    value ≠ [] ∧ suite.verify key c.family.signatureAlgorithm message value = true

/-- A private key signs whatever it is given, and whoever has the bits of its public half can verify
that. -/
structure Signs (suite : Suite) (c : PrivateCredential) : Prop where
  yields : ∀ message, ∃ value, suite.sign c c.family.signatureAlgorithm message = .ok value
  pairs : ∀ key : PublicCredential, key.sameKey c.publicHalf = true → suite.Pairs c key

/-- A suite can encrypt every text for a recipient. -/
structure Seals (suite : Suite) (recipient : PublicCredential) : Prop where
  wraps : ∀ transport (encryption : DataEncryption) seed key, key.length = encryption.keySize →
    ∃ wrapped, suite.wrap recipient transport seed key = .ok wrapped
  protects : ∀ encryption key nonce text, key.length = encryption.keySize →
    ∃ message, suite.protect encryption key nonce text = .ok message

/-- What a suite encrypts for a recipient, it can decrypt with a secret key. -/
structure Opens (suite : Suite) (c : PrivateCredential) (recipient : PublicCredential) : Prop where
  unwrap_wrap : ∀ transport seed key wrapped, seed.length = Rsa.hashSize transport →
    suite.wrap recipient transport seed key = .ok wrapped →
    suite.unwrap c transport wrapped = some key
  reveal_protect : ∀ encryption key nonce text message, nonce.length = Gcm.nonceSize →
    suite.protect encryption key nonce text = .ok message →
    suite.reveal encryption key message = some text

/-! ## The standard suite -/

theorem verifiesByBits_standard : standard.VerifiesByBits := by
  intro a b h
  unfold PublicCredential.sameKey at h
  rw [Bool.and_eq_true, decide_eq_true_eq, decide_eq_true_eq] at h
  funext algorithm message signature
  show verifyBytes a algorithm message signature = verifyBytes b algorithm message signature
  unfold verifyBytes
  rw [h.1, h.2]

theorem revealBytes_protectBytes (a : DataEncryption) (key nonce text message : Bytes)
    (hnonce : nonce.length = Gcm.nonceSize) (h : protectBytes a key nonce text = .ok message) :
    revealBytes a key message = some text := by
  unfold protectBytes at h
  by_cases hkey : key.length ≠ a.keySize
  · rw [if_neg hkey] at h
    cases h
  have hkey := Classical.not_not.1 hkey
  rw [if_pos hkey] at h
  cases h
  have hsize : key.length = 16 ∨ key.length = 32 := by
    rw [hkey]
    cases a
    · exact Or.inl rfl
    · exact Or.inr rfl
  have hlong : Gcm.nonceSize + Gcm.tagSize ≤ (nonce ++ Gcm.encrypt key nonce text).length := by
    unfold Gcm.encrypt
    rw [List.length_append, List.length_append, Gcm.length_tag key nonce hsize hnonce, hnonce]
    omega
  unfold revealBytes
  rw [if_pos ⟨hkey, hlong⟩, ← hnonce, List.take_left, List.drop_left,
    Gcm.decrypt_encrypt key nonce hsize hnonce]

theorem usable_of_recipientKey (recipient : PublicCredential) (k : Rsa.PublicKey)
    (h : recipientKey recipient = .ok k) : k.usable = true := by
  unfold recipientKey at h
  split at h
  · split at h
    · next key hfilter =>
      cases h
      exact (Option.filter_eq_some_iff.1 hfilter).2
    · cases h
  · cases h

/-- The bare half of an RSA key is one that session keys are wrapped with. -/
theorem recipientKey_ofRsa (k : Rsa.PrivateKey) (h : k.publicKey.usable = true) :
    recipientKey (.ofRsa k) = .ok k.publicKey := by
  have hread : Secret.publishedRsa? (PublicCredential.ofRsa k).keyInfo = some k.publicKey :=
    Secret.publishedRsa?_keyInfo k h
  have hfamily : (PublicCredential.ofRsa k).family = .rsa := rfl
  have husable : (some k.publicKey).filter (·.usable) = some k.publicKey := if_pos h
  rw [recipientKey, if_pos hfamily, hread, husable]

/-- A usable key is long enough for every session key. -/
theorem seals_standard (recipient : PublicCredential) (k : Rsa.PublicKey)
    (hrecipient : recipientKey recipient = .ok k) : standard.Seals recipient where
  wraps t a seed key hkey := by
    have hsize := Rsa.size_of_usable k (usable_of_recipientKey recipient k hrecipient)
    have hhash : Rsa.hashSize t ≤ 64 := by cases t <;> decide
    have hlength : key.length ≤ 32 := by
      rw [hkey]
      cases a <;> decide
    obtain ⟨wrapped, hwrapped⟩ :
        ∃ wrapped, Rsa.wrap? k t (seed.take (Rsa.hashSize t)) key = some wrapped :=
      ⟨_, (Rsa.wrap?_eq_some ..).2 ⟨by omega, rfl⟩⟩
    refine ⟨wrapped, ?_⟩
    show wrapBytes recipient t seed key = _
    unfold wrapBytes
    rw [hrecipient, ok_bind, hwrapped]
    rfl
  protects _ _ _ _ hkey := ⟨_, if_pos hkey⟩

theorem seals_ofRsa (k : Rsa.PrivateKey) (h : k.publicKey.usable = true) :
    standard.Seals (.ofRsa k) :=
  seals_standard _ _ (recipientKey_ofRsa k h)

section
variable (c : PrivateCredential) (k : Rsa.PrivateKey) (hc : c.Sound k)
include hc

/-- A secret key unwraps what is wrapped for its published half. -/
theorem unwrapBytes_wrapBytes (recipient : PublicCredential)
    (hrecipient : ∀ key ∈ Secret.publishedRsa? recipient.keyInfo, key = k.publicKey)
    (t : KeyTransport) (seed key wrapped : Bytes) (hseed : seed.length = Rsa.hashSize t)
    (h : wrapBytes recipient t seed key = .ok wrapped) :
    unwrapBytes c t wrapped = some key := by
  unfold wrapBytes at h
  obtain ⟨published, hpublished, h⟩ := (bind_eq_ok _ _ _).1 h
  have heq : published = k.publicKey := by
    unfold recipientKey at hpublished
    split at hpublished
    · cases hread : Secret.publishedRsa? recipient.keyInfo with
      | none =>
        rw [hread] at hpublished
        cases hpublished
      | some read =>
        rw [hread] at hpublished
        split at hpublished
        · next key hfilter =>
          cases hpublished
          obtain ⟨hsome, -⟩ := Option.filter_eq_some_iff.1 hfilter
          rw [← hrecipient read hread, Option.some.inj hsome]
        · cases hpublished
    · cases hpublished
  rw [heq, ← hseed, List.take_length] at h
  unfold unwrapBytes
  rw [hc.secret]
  split at h
  · next value hvalue =>
    cases h
    exact Rsa.unwrap?_wrap? k hc.inverts t seed key _ hseed hvalue
  · cases h

theorem opens_standard (recipient : PublicCredential) (hread : recipient.Read)
    (hsame : recipient.sameKey c.publicHalf = true) : standard.Opens c recipient where
  unwrap_wrap := unwrapBytes_wrapBytes c k hc recipient
    (recipient.publishedRsa?_of_read hread k hc.usable (hc.sameKey_ofRsa recipient hsame))
  reveal_protect := revealBytes_protectBytes

theorem sign_standard (message : Bytes) :
    standard.sign c c.family.signatureAlgorithm message = .ok (Rsa.sign k .sha256 message) := by
  rw [hc.family_eq]
  show signBytes c .rsaSha256 message = _
  unfold signBytes
  rw [hc.family_eq, hc.secret]
  rfl

theorem pairs_standard (key : PublicCredential) (hsame : key.sameKey c.publicHalf = true) :
    standard.Pairs c key := by
  obtain ⟨hfamily, hkey⟩ :=
    (PublicCredential.sameKey_iff key (.ofRsa k)).1 (hc.sameKey_ofRsa key hsame)
  have hbits : rsaKey? key.key = some k.publicKey := by
    have hread := Secret.readRsa?_rsaBits k.publicKey hc.usable []
    rw [List.append_nil] at hread
    unfold rsaKey?
    rw [hkey, PublicCredential.ofRsa, hread]
  intro message value h
  have hvalue := Except.ok.inj ((sign_standard c k hc message).symm.trans h)
  rw [← hvalue, hc.family_eq]
  constructor
  · intro hempty
    have hlength := Rsa.length_privateApply k (Rsa.paddedDigest .sha256 k.publicKey.size message)
    have hsize := Rsa.size_of_usable k.publicKey hc.usable
    change (Rsa.sign k .sha256 message).length = _ at hlength
    rw [hempty, List.length_nil] at hlength
    omega
  · show verifyBytes key .rsaSha256 message _ = true
    unfold verifyBytes
    rw [hfamily, hbits]
    exact Rsa.verify_sign k hc.inverts hc.usable .sha256 message

theorem signs_standard : standard.Signs c where
  yields message := ⟨_, sign_standard c k hc message⟩
  pairs key hsame := pairs_standard c k hc key hsame

end

end Federation.Crypto.Suite
