import Federation.Proofs.Crypto.Suite
import Federation.Saml.Signing

/-!
# What validation answers

Validation says yes exactly for a signature whose structure, digest and value are right under a key
of the anchor.

    validate suite target anchor = ok true ↔
      target carries s, anchor = ok keys, and Verifies suite target s key for some key in keys

Where the value depends on the bits of the key alone, so does `Verifies`. Signing answers the object
with the record that the key makes for it (`Makes`), or fails as the suite does (`SigningFails`).

    sign suite target c = ok t ↔ Makes suite c target s and t = attach target s for some s
-/

namespace Federation.Saml

open Federation.Crypto (Suite PublicCredential PrivateCredential SignatureAlgorithm DigestAlgorithm)

/-- The signature `s` of an object is right under a key. -/
structure Verifies {α : Type} [Signable α] (suite : Suite) (target : α) (s : SignatureRecord)
    (key : PublicCredential) : Prop where
  valued : s.signatureValue ≠ []
  canonicalization : s.canonicalization = exclusiveCanonicalization
  reference : s.referenceUri = "#" ++ Signable.id target
  /-- The digest is that of the object, and the value is the key's over the signed part. -/
  covers : ∃ algorithm digest text, SignatureAlgorithm.ofUri s.algorithm = .ok algorithm ∧
    DigestAlgorithm.ofUri? s.digestAlgorithm = some digest ∧
    Signable.canonicalText target = .ok text ∧
    suite.digest digest (Bytes.ofText text) = s.digestValue ∧
    suite.verify key algorithm (Bytes.ofText s.signedText) s.signatureValue = true

theorem liftCrypto_eq_ok {α : Type} (r : Except Crypto.Failure α) (a : α) :
    liftCrypto r = .ok a ↔ r = .ok a := mapError_eq_ok _ r a

theorem algorithms_eq_ok (s : SignatureRecord) (expected : String) (algorithm : SignatureAlgorithm)
    (digest : DigestAlgorithm) :
    s.algorithms expected = .ok (algorithm, digest) ↔ s.signatureValue ≠ [] ∧
      s.canonicalization = exclusiveCanonicalization ∧ s.referenceUri = expected ∧
      SignatureAlgorithm.ofUri s.algorithm = .ok algorithm ∧
      DigestAlgorithm.ofUri? s.digestAlgorithm = some digest := by
  unfold SignatureRecord.algorithms
  constructor
  · intro h
    by_cases h1 : s.signatureValue.isEmpty = true
    · rw [if_pos h1] at h
      cases h
    rw [if_neg h1] at h
    by_cases h2 : s.canonicalization ≠ exclusiveCanonicalization
    · simp only [if_pos h2] at h
      cases h
    simp only [if_neg h2] at h
    by_cases h3 : s.referenceUri ≠ expected
    · simp only [if_pos h3] at h
      cases h
    simp only [if_neg h3] at h
    obtain ⟨a, ha, h⟩ := (bind_eq_ok _ _ _).1 h
    cases h4 : DigestAlgorithm.ofUri? s.digestAlgorithm with
    | none =>
      rw [h4] at h
      cases h
    | some d =>
      rw [h4] at h
      cases h
      exact ⟨fun h => h1 (by rw [h]; rfl), Classical.not_not.1 h2, Classical.not_not.1 h3,
        (liftCrypto_eq_ok _ _).1 ha, rfl⟩
  · rintro ⟨h1, h2, h3, h4, h5⟩
    have h1' : ¬ s.signatureValue.isEmpty = true := fun h => h1 (List.isEmpty_iff.1 h)
    rw [if_neg h1', if_neg (not_not_intro h2), if_neg (not_not_intro h3), h4, h5]
    rfl

section
variable {α : Type} [Signable α] (suite : Suite) (target : α)

/-- The key that a right signature carries is compared with the keys of the anchor. -/
theorem inspect_eq_ok_valid (anchor : Anchor) (v : Verdict) (hv : v.valid = true) :
    inspect suite target anchor = .ok v ↔ ∃ s, Signable.signature? target = some s ∧
      ∃ keys, anchor = .ok keys ∧ (∃ key ∈ keys, Verifies suite target s key) ∧
        v.foreign = s.foreign? keys := by
  unfold inspect
  cases hs : Signable.signature? target with
  | none =>
    simp only [reduceCtorEq, false_and, exists_false]
  | some s =>
    simp only [Option.some.injEq, exists_eq_left']
    rw [bind_eq_ok]
    constructor
    · rintro ⟨⟨algorithm, digest⟩, halg, h⟩
      obtain ⟨h1, h2, h3, h4, h5⟩ := (algorithms_eq_ok _ _ _ _).1 halg
      obtain ⟨keys, hkeys, h⟩ := (bind_eq_ok _ _ _).1 h
      by_cases hempty : keys.isEmpty = true
      · simp only [if_pos hempty] at h
        cases h
        cases hv
      simp only [if_neg hempty] at h
      obtain ⟨text, htext, h⟩ := (bind_eq_ok _ _ _).1 h
      cases h
      have hvalid := hv
      rw [Bool.and_eq_true, decide_eq_true_eq, List.any_eq_true] at hvalid
      obtain ⟨hdigest, key, hkey, hverify⟩ := hvalid
      exact ⟨keys, hkeys, ⟨key, hkey, h1, h2, h3, algorithm, digest, text, h4, h5, htext, hdigest,
        hverify⟩, if_pos hv⟩
    · obtain ⟨valid, foreign⟩ := v
      obtain rfl : valid = true := hv
      rintro ⟨keys, hkeys, ⟨key, hkey, h1, h2, h3, algorithm, digest, text, h4, h5, htext, hdigest,
        hverify⟩, rfl⟩
      refine ⟨(algorithm, digest), (algorithms_eq_ok _ _ _ _).2 ⟨h1, h2, h3, h4, h5⟩, ?_⟩
      have hempty : ¬ keys.isEmpty = true := by
        intro h
        rw [List.isEmpty_iff.1 h] at hkey
        cases hkey
      simp only
      rw [hkeys]
      show (if keys.isEmpty = true then _ else _) = _
      rw [if_neg hempty, htext]
      show Except.ok _ = _
      rw [hdigest, decide_eq_true rfl, Bool.true_and, List.any_eq_true.2 ⟨key, hkey, hverify⟩]
      rfl

theorem validate_eq_ok_true (anchor : Anchor) :
    validate suite target anchor = .ok true ↔ ∃ s, Signable.signature? target = some s ∧
      ∃ keys, anchor = .ok keys ∧ ∃ key ∈ keys, Verifies suite target s key := by
  unfold validate
  rw [map_eq_ok]
  constructor
  · rintro ⟨v, h, hv⟩
    obtain ⟨s, hs, keys, hkeys, hverifies, -⟩ := (inspect_eq_ok_valid _ _ _ _ hv).1 h
    exact ⟨s, hs, keys, hkeys, hverifies⟩
  · rintro ⟨s, hs, keys, hkeys, hverifies⟩
    exact ⟨⟨true, s.foreign? keys⟩,
      (inspect_eq_ok_valid _ _ _ _ rfl).2 ⟨s, hs, keys, hkeys, hverifies, rfl⟩, rfl⟩

end

/-! ## Signing -/

/-- What an attached signature is and covers. -/
class LawfulSignable (α : Type) [Signable α] : Prop where
  signature?_attach : ∀ (target : α) (s : SignatureRecord),
    Signable.signature? (Signable.attach target s) = some s
  canonicalText_attach : ∀ (target : α) (s : SignatureRecord),
    Signable.canonicalText (Signable.attach target s) = Signable.canonicalText target
  id_attach : ∀ (target : α) (s : SignatureRecord),
    Signable.id (Signable.attach target s) = Signable.id target

instance : LawfulSignable Assertion where
  signature?_attach _ _ := rfl
  canonicalText_attach _ _ := rfl
  id_attach _ _ := rfl

instance : LawfulSignable Response where
  signature?_attach _ _ := rfl
  canonicalText_attach _ _ := rfl
  id_attach _ _ := rfl

theorem sign_eq_ok {α : Type} [Signable α] (suite : Suite) (target t : α) (c : PrivateCredential) :
    sign suite target c = .ok t ↔ ∃ text value, Signable.canonicalText target = .ok text ∧
      suite.sign c c.family.signatureAlgorithm (Bytes.ofText
        (SignatureRecord.unsigned suite (referenceTo target) text c).signedText) = .ok value ∧
      t = Signable.attach target
        { SignatureRecord.unsigned suite (referenceTo target) text c with
          signatureValue := value } := by
  unfold sign signatureFor
  rw [map_eq_ok]
  constructor
  · rintro ⟨s, hs, rfl⟩
    obtain ⟨text, htext, hs⟩ := (bind_eq_ok _ _ _).1 hs
    obtain ⟨value, hvalue, hs⟩ := (bind_eq_ok _ _ _).1 hs
    exact ⟨text, value, htext, (liftCrypto_eq_ok _ _).1 hvalue, by rw [← Except.ok.inj hs]⟩
  · rintro ⟨text, value, htext, hvalue, rfl⟩
    refine ⟨_, ?_, rfl⟩
    rw [htext, ok_bind]
    show (liftCrypto (suite.sign _ _ _) >>= _) = _
    rw [hvalue]
    rfl

theorem digestAlgorithm_ofUri?_uri (d : DigestAlgorithm) :
    DigestAlgorithm.ofUri? d.uri = some d := by
  cases d <;> rfl

theorem signatureAlgorithm_ofUri_uri (a : SignatureAlgorithm) :
    SignatureAlgorithm.ofUri a.uri = .ok a := by
  cases a <;> rfl

/-- The record that a key makes for an object: of the object's digest, with the key's signature over
the signed part, and with the public half of the key. -/
structure Makes {α : Type} [Signable α] (suite : Suite) (c : PrivateCredential) (target : α)
    (s : SignatureRecord) : Prop where
  algorithm : s.algorithm = c.family.signatureAlgorithm.uri
  canonicalization : s.canonicalization = exclusiveCanonicalization
  reference : s.referenceUri = "#" ++ Signable.id target
  digestAlgorithm : s.digestAlgorithm = c.family.signatureAlgorithm.digest.uri
  digest : ∃ text, Signable.canonicalText target = .ok text ∧
    s.digestValue = suite.digest c.family.signatureAlgorithm.digest (Bytes.ofText text)
  value : suite.sign c c.family.signatureAlgorithm (Bytes.ofText s.signedText)
    = .ok s.signatureValue
  key : s.keyInfo = some (.ofCredential c.publicHalf)

/-- Why an object cannot be signed: it has no text, or the suite does not sign what there is to
sign. -/
inductive SigningFails {α : Type} [Signable α] (suite : Suite) (c : PrivateCredential)
    (target : α) : Failure → Prop
  | text (f : Failure) (h : Signable.canonicalText target = .error f) :
    SigningFails suite c target f
  | value (text : String) (f : Crypto.Failure) (htext : Signable.canonicalText target = .ok text)
    (h : suite.sign c c.family.signatureAlgorithm (Bytes.ofText
      (SignatureRecord.unsigned suite (referenceTo target) text c).signedText) = .error f) :
    SigningFails suite c target (.ofCrypto f)

section
variable {α : Type} [Signable α] (suite : Suite) (target t : α) (c : PrivateCredential)

theorem sign_eq_ok_iff_makes :
    sign suite target c = .ok t ↔ ∃ s, Makes suite c target s ∧ t = Signable.attach target s := by
  rw [sign_eq_ok]
  constructor
  · rintro ⟨text, value, htext, hvalue, rfl⟩
    exact ⟨_, ⟨rfl, rfl, rfl, rfl, ⟨text, htext, rfl⟩, hvalue, rfl⟩, rfl⟩
  · rintro ⟨⟨_, _, _, _, _, value, _⟩, hmakes, rfl⟩
    obtain ⟨rfl, rfl, rfl, rfl, ⟨text, htext, rfl⟩, hvalue, rfl⟩ := hmakes
    exact ⟨text, value, htext, hvalue, rfl⟩

theorem sign_eq_error (f : Failure) (h : SigningFails suite c target f) :
    sign suite target c = .error f := by
  unfold sign signatureFor
  cases h with
  | text f h =>
    rw [h]
    rfl
  | value text f htext h =>
    rw [htext, ok_bind]
    show Signable.attach target <$> (liftCrypto (suite.sign _ _ _) >>= _) = _
    rw [h]
    rfl

end

section
variable {α : Type} [Signable α] [LawfulSignable α] {suite : Suite} {target : α}
  {c : PrivateCredential} {s : SignatureRecord} (h : Makes suite c target s)
include h

/-- The record is as much the key's for the object that bears it. -/
theorem Makes.attach (s' : SignatureRecord) : Makes suite c (Signable.attach target s') s := by
  obtain ⟨h1, h2, h3, h4, ⟨text, htext, hdigest⟩, h6, h7⟩ := h
  refine ⟨h1, h2, ?_, h4, ⟨text, ?_, hdigest⟩, h6, h7⟩
  · rw [LawfulSignable.id_attach]
    exact h3
  · rw [LawfulSignable.canonicalText_attach]
    exact htext

omit [LawfulSignable α] in
/-- Who has a public key that goes with the secret one can verify the record. -/
theorem Makes.verifies (key : PublicCredential) (hpairs : suite.Pairs c key) :
    Verifies suite target s key := by
  obtain ⟨h1, h2, h3, h4, ⟨text, htext, hdigest⟩, h6, -⟩ := h
  obtain ⟨hvalued, hverify⟩ := hpairs _ _ h6
  exact ⟨hvalued, h2, h3, _, _, text, h1 ▸ signatureAlgorithm_ofUri_uri _,
    h4 ▸ digestAlgorithm_ofUri?_uri _, htext, hdigest.symm, hverify⟩

end

theorem verifies_of_sign {α : Type} [Signable α] [LawfulSignable α] (suite : Suite) (target t : α)
    (c : PrivateCredential) (key : PublicCredential) (hpairs : suite.Pairs c key)
    (h : sign suite target c = .ok t) :
    ∃ s, Signable.signature? t = some s ∧ Verifies suite t s key := by
  obtain ⟨s, hmakes, rfl⟩ := (sign_eq_ok_iff_makes ..).1 h
  exact ⟨s, LawfulSignable.signature?_attach .., (hmakes.attach s).verifies key hpairs⟩

/-! ## Equal keys -/

theorem Verifies.of_sameKey {α : Type} [Signable α] (suite : Suite) (hsuite : suite.VerifiesByBits)
    (target : α) (s : SignatureRecord) (a b : PublicCredential) (hsame : a.sameKey b = true)
    (h : Verifies suite target s a) : Verifies suite target s b := by
  obtain ⟨h1, h2, h3, algorithm, digest, text, h4, h5, h6, h7, h8⟩ := h
  exact ⟨h1, h2, h3, algorithm, digest, text, h4, h5, h6, h7, hsuite a b hsame ▸ h8⟩

end Federation.Saml
