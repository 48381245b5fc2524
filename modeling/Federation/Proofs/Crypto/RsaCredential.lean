import Federation.Proofs.Crypto.Credential
import Federation.Proofs.Crypto.KeyInfo
import Federation.Proofs.Crypto.Primes

/-!
# RSA credentials

The published half of an RSA key that was read holds the key's own numbers, in the bits beside the
private key, in those of a certificate, and wherever the same key was published.

    c.Built, c.secret = rsa k  →  k.publicKey.usable, c.publicHalf.sameKey (ofRsa k)
    p.Read, p.sameKey (ofRsa k)  →  every key in publishedRsa? p.keyInfo is k.publicKey
-/

namespace Federation.Crypto

/-- An RSA key that was read can be used. -/
theorem Secret.usable_of_read? (der : Bytes) (k : Rsa.PrivateKey) (h : read? der = some (rsa k)) :
    k.publicKey.usable = true := by
  unfold read? at h
  obtain ⟨⟨body, rest⟩, -, h⟩ := Option.bind_eq_some_iff.1 h
  obtain ⟨⟨version, b⟩, -, h⟩ := Option.bind_eq_some_iff.1 h
  obtain ⟨⟨algorithm, b⟩, -, h⟩ := Option.bind_eq_some_iff.1 h
  obtain ⟨⟨key, b⟩, -, h⟩ := Option.bind_eq_some_iff.1 h
  dsimp only at h
  split at h
  · cases h
  obtain ⟨f, -, h⟩ := Option.bind_eq_some_iff.1 h
  cases f with
  | rsa => exact (inverts_of_readRsaSecret? key k h).1
  | ecP256 =>
    obtain ⟨_, -, hne⟩ := Option.map_eq_some_iff.1 h
    cases hne
  | ecP384 =>
    obtain ⟨_, -, hne⟩ := Option.map_eq_some_iff.1 h
    cases hne

/-! ## Published halves -/

namespace PublicCredential

/-- The published half of an RSA key. -/
def ofRsa (k : Rsa.PrivateKey) : PublicCredential where
  family := .rsa
  keyInfo := (Secret.rsa k).keyInfo
  key := Secret.rsaBits k.publicKey

theorem ofKeyInfo_rsa (k : Rsa.PrivateKey) (h : k.publicKey.usable = true) :
    ofKeyInfo (Secret.rsa k).keyInfo = .ok (ofRsa k) := by
  have hlength := Secret.length_rsaBits k.publicKey h
  have hdecode : KeyInfo.decode (Secret.rsa k).keyInfo = .ok (.rsa, Secret.rsaBits k.publicKey) :=
    KeyInfo.decode_encode .rsa (Secret.rsaBits k.publicKey) (by omega)
  rw [ofKeyInfo, hdecode]
  rfl

theorem decode_of_ofKeyInfo (der : Bytes) (p : PublicCredential) (h : ofKeyInfo der = .ok p) :
    KeyInfo.decode p.keyInfo = .ok (p.family, p.key) := by
  obtain ⟨⟨family, key⟩, hdecode, h⟩ := (bind_eq_ok _ _ _).1 h
  cases h
  exact hdecode

/-- The bits of a credential that was read are those in its published form. -/
theorem decode_of_read (p : PublicCredential) (h : p.Read) :
    KeyInfo.decode p.keyInfo = .ok (p.family, p.key) := by
  induction h with
  | keyInfo der p h => exact decode_of_ofKeyInfo der p h
  | certificate der p h =>
    obtain ⟨keyInfo, -, h⟩ := (bind_eq_ok _ _ _).1 h
    obtain ⟨bare, hbare, h⟩ := (bind_eq_ok _ _ _).1 h
    cases h
    exact decode_of_ofKeyInfo keyInfo bare hbare
  | named p name _ ih => exact ih

/-- Wherever an RSA key is published, nothing but its own numbers are read there. -/
theorem publishedRsa?_of_read (p : PublicCredential) (h : p.Read) (k : Rsa.PrivateKey)
    (husable : k.publicKey.usable = true) (hsame : p.sameKey (ofRsa k) = true) :
    ∀ key ∈ Secret.publishedRsa? p.keyInfo, key = k.publicKey := by
  intro key hkey
  have hdecode := decode_of_read p h
  have hbits : p.key = Secret.rsaBits k.publicKey := ((sameKey_iff p (ofRsa k)).1 hsame).2
  unfold Secret.publishedRsa? at hkey
  obtain ⟨bits, hcanonical, hkey⟩ := Option.bind_eq_some_iff.1 hkey
  have heq := KeyInfo.canonical?_of_decode p.family p.key _ bits .rsa hdecode hcanonical
  have hread := Secret.readRsa?_rsaBits k.publicKey husable []
  rw [List.append_nil] at hread
  rw [heq, hbits, hread] at hkey
  exact (Option.some.inj hkey).symm

end PublicCredential

/-! ## Private credentials -/

namespace PrivateCredential

/-- An RSA credential that was read publishes its key in its exact form. -/
theorem publicHalf_of_ofPkcs8 (der : Bytes) (c : PrivateCredential) (h : ofPkcs8 der = .ok c)
    (k : Rsa.PrivateKey) (hsecret : c.secret = .rsa k) :
    k.publicKey.usable = true ∧ c.publicHalf = .ofRsa k := by
  unfold ofPkcs8 at h
  split at h
  · next secret hread =>
    obtain ⟨published, hpublished, h⟩ := (bind_eq_ok _ _ _).1 h
    cases h
    cases hsecret
    have husable := Secret.usable_of_read? der k hread
    rw [PublicCredential.ofKeyInfo_rsa k husable] at hpublished
    exact ⟨husable, (Except.ok.inj hpublished).symm⟩
  · cases h

/-- Neither a name nor a certificate changes the key. -/
theorem sameKey_ofRsa_of_built (c : PrivateCredential) (h : c.Built) (k : Rsa.PrivateKey)
    (hsecret : c.secret = .rsa k) :
    k.publicKey.usable = true ∧ c.publicHalf.sameKey (.ofRsa k) = true := by
  obtain ⟨bare, p, hbare, hsame, -, hc⟩ := exists_of_built c h
  rw [hc] at hsecret
  obtain ⟨husable, hhalf⟩ := publicHalf_of_ofPkcs8 _ bare hbare k hsecret
  refine ⟨husable, ?_⟩
  rw [hc, ← hhalf]
  exact hsame

/-- A credential with an RSA key that was read and whose exponents undo each other. -/
structure Sound (c : PrivateCredential) (k : Rsa.PrivateKey) : Prop where
  built : c.Built
  secret : c.secret = .rsa k
  inverts : k.Inverts

namespace Sound

variable {c : PrivateCredential} {k : Rsa.PrivateKey} (h : c.Sound k)
include h

theorem family_eq : c.family = .rsa := by
  unfold family
  rw [h.secret]
  rfl

theorem usable : k.publicKey.usable = true :=
  (sameKey_ofRsa_of_built c h.built k h.secret).1

theorem sameKey_ofRsa (key : PublicCredential) (hsame : key.sameKey c.publicHalf = true) :
    key.sameKey (.ofRsa k) = true :=
  key.sameKey_trans _ _ hsame (sameKey_ofRsa_of_built c h.built k h.secret).2

theorem family_publicHalf : c.publicHalf.family = .rsa :=
  ((PublicCredential.sameKey_iff _ _).1 (h.sameKey_ofRsa _ c.publicHalf.sameKey_refl)).1

end Sound

end PrivateCredential

end Federation.Crypto
