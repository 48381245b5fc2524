import Federation.Proofs.Exchange.Acceptance
import Federation.Proofs.Metadata.Trust
import Mathlib.Data.Fintype.EquivFin

/-!
# Issuers that are believed unsigned

The signatures of an issuer verify with the keys of all its descriptors as an identity provider, but
whether it has to sign is told by one of them, the first that supports the protocol. A party holds
an issuer to its keys exactly unless that one descriptor has none and the party itself does not ask
for signatures.

    (∀ now r a, (p.consume s around r now).1 = ok a → a.issuer = some id → KeySigned suite keys r a)
      ↔ ¬ p.TakesUnsigned resolver id

Here `keys` are the credentials of the issuer that `resolver` answers. If there are some although
the party takes unsigned messages, the issuer has two descriptors that differ in whether they have
keys (`TakesUnsigned.exists_other`).
-/

namespace Federation.Exchange

open Federation.Saml Federation.Time Federation.Metadata
open Federation.Crypto (Suite Random PublicCredential)

theorem ReplayStore.exists_fresh (s : ReplayStore) (now : Instant) :
    ∃ id, s.seen id now = false := by
  obtain ⟨id, hid⟩ := Infinite.exists_notMem_finset (s.entries.map (·.1)).toFinset
  refine ⟨id, ?_⟩
  rw [← Bool.not_eq_true, s.seen_iff]
  rintro ⟨expiry, hmem, -⟩
  exact hid (List.mem_toFinset.2 (List.mem_map.2 ⟨_, hmem, rfl⟩))

/-! ## Keys that vouch -/

/-- One of the keys verifies the assertion, or the response if it is of the assertion's issuer. -/
def KeySigned (suite : Suite) (keys : List PublicCredential) (r : Response) (a : Assertion) :
    Prop :=
  ∃ key ∈ keys, (∃ s, a.signature = some s ∧ Verifies suite a s key) ∨
    ∃ s, r.signature = some s ∧ r.effectiveIssuer = a.issuer ∧ Verifies suite r s key

namespace RelyingParty

/-- Nothing asks for a signature of the issuer: neither the party itself nor the descriptor that it
knows the issuer by, which has no key to sign with. -/
def TakesUnsigned (p : RelyingParty) (resolver : Resolver) (id : String) : Prop :=
  p.profile.requireSigned = false ∧ id ≠ "" ∧ ∃ idp,
    resolver.trusted ⟨id, .identityProvider, p.profile.protocol⟩ = .ok idp ∧ idp.signingKeys = []

section
variable (p : RelyingParty) (suite : Suite) (hsuite : suite.VerifiesByBits) (resolver : Resolver)
  (id : String) (keys : List PublicCredential)
  (hkeys : resolver.credentials id .identityProvider .signing = .ok keys)
include hkeys

include hsuite in
/-- What can be believed of an issuer is verified by one of its keys, or nobody signs. -/
theorem keySigned_or_takesUnsigned (random : Random) (r : Response) (a : Assertion)
    (h : p.Believed suite resolver random r a) (hissuer : a.issuer = some id) (hid : id ≠ "") :
    KeySigned suite keys r a ∨ p.TakesUnsigned resolver id := by
  have hverified {α : Type} [Signable α] (target : α) (s : SignatureRecord)
      (hsigned : SignedBy suite resolver (some id) target s) :
      ∃ key ∈ keys, Verifies suite target s key := by
    obtain ⟨keys', hkeys', hverifies⟩ :=
      (signedBy_iff_credentials suite hsuite resolver id target s).1 hsigned
    rw [hkeys] at hkeys'
    cases hkeys'
    exact hverifies
  have hvouched := h.vouched
  unfold Vouched at hvouched
  rw [hissuer] at hvouched
  cases ha : a.signature with
  | some s =>
    rw [ha] at hvouched
    obtain ⟨key, hkey, hverifies⟩ := hverified a s hvouched
    exact Or.inl ⟨key, hkey, Or.inl ⟨s, ha, hverifies⟩⟩
  | none =>
    cases hr : r.signature with
    | some s =>
      rw [ha, hr] at hvouched
      have hsigned := h.signed s hr
      rw [hvouched.2] at hsigned
      obtain ⟨key, hkey, hverifies⟩ := hverified r s hsigned
      exact Or.inl ⟨key, hkey, Or.inr ⟨s, hr, hvouched.2.trans hissuer.symm, hverifies⟩⟩
    | none =>
      rw [ha, hr] at hvouched
      obtain ⟨hrequire, id', idp, hid', hidp, hnone⟩ := hvouched
      cases hid'
      exact Or.inr ⟨hrequire, hid, idp, hidp, hnone⟩

/-- Only an issuer with several descriptors is believed unsigned although it has keys: the first
that supports the protocol has none to sign with, and another one has. -/
theorem TakesUnsigned.exists_other (h : p.TakesUnsigned resolver id) (hne : keys ≠ []) :
    ∃ d e first other, resolver.document = .ok d ∧ d.entity? id = some e ∧
      e.role? .identityProvider p.profile.protocol = some first ∧
      other ∈ e.rolesOf .identityProvider ∧ first.signingKeys = [] ∧ other.signingKeys ≠ [] := by
  obtain ⟨-, -, idp, hidp, hnone⟩ := h
  obtain ⟨d, e, first, hd, he, hfirst, rfl⟩ := (resolver.trusted_eq_ok _ _).1 hidp
  obtain ⟨snapshot, hsnapshot, hcredentials⟩ := (resolver.credentials_eq_ok _ _ _ _).1 hkeys
  have hsame := (resolver.document_eq_ok _).2 ⟨snapshot, hsnapshot, rfl⟩
  rw [hd] at hsame
  cases hsame
  obtain ⟨key, hkey⟩ := List.exists_mem_of_ne_nil keys hne
  obtain ⟨e', he', other, hother, hrole, k, hk, huse, -⟩ :=
    snapshot.document.publishes_of_mem_credentials _ _ _ _ hcredentials key hkey
  rw [he] at he'
  cases he'
  refine ⟨_, e, first, other, hd, he, hfirst, ?_, hnone, ?_⟩
  · exact List.mem_filter.2 ⟨hother, decide_eq_true hrole⟩
  · exact List.ne_nil_of_mem (List.mem_map.2 ⟨k, List.mem_filter.2 ⟨hk, huse⟩, rfl⟩)

end

/-! ## A message that nobody signs -/

/-- An assertion without a signature that states no more than it has to. -/
def bareAssertion (p : RelyingParty) (issuer id : String) : Assertion where
  id
  protocol := p.profile.protocol
  issueInstant := sampleTime
  issuer := some issuer
  subject := some (Subject.bearer "user" p.profile.protocol)
  validity := sampleAssertion.validity

/-- A response without a signature that carries it. -/
def bareResponse (p : RelyingParty) (issuer id : String) : Response where
  id := "_r"
  protocol := p.profile.protocol
  issueInstant := sampleTime
  payload := some (.plain (p.bareAssertion issuer id))

theorem not_keySigned_bare (p : RelyingParty) (suite : Suite) (keys : List PublicCredential)
    (issuer id : String) :
    ¬ KeySigned suite keys (p.bareResponse issuer id) (p.bareAssertion issuer id) := by
  rintro ⟨key, -, ⟨s, hs, -⟩ | ⟨s, hs, -⟩⟩
  · cases hs
  · cases hs

theorem accepts_bare (p : RelyingParty) (suite : Suite) (resolver : Resolver)
    (replay : ReplayStore) (random : Random) (issuer id : String) (wall : Instant)
    (h : p.TakesUnsigned resolver issuer) (hfresh : replay.seen id wall = false) :
    p.Accepts suite resolver replay random (p.bareResponse issuer id) (p.bareAssertion issuer id)
      sampleTime wall := by
  obtain ⟨hrequire, hissuer, idp, hidp, hnone⟩ := h
  refine ⟨⟨rfl, nofun, nofun, rfl, Or.inl rfl, ?_⟩, rfl, ⟨issuer, rfl, hissuer, idp, hidp⟩, ?_, ?_,
    ?_, hfresh⟩
  · exact ⟨hrequire, issuer, idp, rfl, hidp, hnone⟩
  · exact ⟨_, rfl, contains_of_within _ _ _ (by decide) (by decide)⟩
  · refine ⟨_, rfl, ?_⟩
    show "user" ≠ ""
    decide
  · rintro expected s d - hs hd
    cases hs
    cases hd

/-! ## Main result -/

def sampleCredential : PublicCredential := { family := .ecP256, keyInfo := [], key := [1] }

/-- Every assertion that a party accepts from an issuer with keys is signed with one of them, unless
the party takes unsigned messages of the issuer: then it accepts one that is not. -/
theorem consume_keySigned_iff (profile : RelyingProfile) (metadata : Resolver)
    (decryptionKey : Option Crypto.PrivateCredential) (validator : Validator) (x : Encrypter)
    (p : RelyingParty)
    (hp : of profile metadata decryptionKey validator (.standardWith Suite.standard x) = .ok p)
    (s : RelyingState) (around : Surroundings) (resolver : Resolver)
    (hresolver : resolver = (s.resolver.refreshIfStale around.source around.uptime).2)
    (id : String) (keys : List PublicCredential)
    (hkeys : resolver.credentials id .identityProvider .signing = .ok keys) :
    (∀ now r a, (p.consume s around r now).1 = .ok a → a.issuer = some id →
      KeySigned Suite.standard keys r a) ↔ ¬ p.TakesUnsigned resolver id := by
  obtain ⟨-, -, hcapabilities, hprotocol, -⟩ := of_eq_ok _ _ _ _ _ _ hp
  have hconsume (now : Instant) (r : Response) (a : Assertion) :
      (p.consume s around r now).1 = .ok a ↔
        p.Accepts Suite.standard resolver s.replay around.random r a now around.wall := by
    rw [p.accepts_iff hprotocol, hresolver,
      ← p.judge_eq_ok _ Suite.verifiesByBits_standard x hcapabilities]
    rfl
  simp only [hconsume]
  constructor
  · intro hall htakes
    obtain ⟨fresh, hfresh⟩ := s.replay.exists_fresh around.wall
    exact p.not_keySigned_bare Suite.standard keys id fresh (hall sampleTime _ _
      (p.accepts_bare Suite.standard resolver s.replay around.random id fresh around.wall htakes
        hfresh) rfl)
  · intro hnot now r a haccepts hissuer
    obtain ⟨id', hid', hempty, -⟩ := haccepts.issuer
    rw [hissuer] at hid'
    cases hid'
    obtain hsigned | htakes := p.keySigned_or_takesUnsigned Suite.standard
      Suite.verifiesByBits_standard resolver id keys hkeys around.random r a haccepts.believed
      hissuer hempty
    · exact hsigned
    · exact absurd htakes hnot

/-- An issuer with one descriptor and a key in it. -/
theorem consume_keySigned_sample :
    ∃ p, of sampleProfile (metadataWith [[sampleCredential]]) none { protocol := .saml20 }
        (.standardWith Suite.standard {}) = .ok p ∧
      ∀ now r a, (p.consume { resolver := metadataWith [[sampleCredential]], replay := {} }
        sampleSurroundings r now).1 = .ok a → a.issuer = some "idp" →
      KeySigned Suite.standard [sampleCredential] r a := by
  refine ⟨_, rfl, (consume_keySigned_iff sampleProfile (metadataWith [[sampleCredential]]) none
    { protocol := .saml20 } {} _ rfl
    { resolver := metadataWith [[sampleCredential]], replay := {} } sampleSurroundings _ rfl "idp"
    [sampleCredential] rfl).2 ?_⟩
  rintro ⟨-, -, idp, hidp, hnone⟩
  cases hidp
  cases hnone

/-- An issuer with a key in its second descriptor alone, and an unsigned message that is accepted
from it. -/
theorem consume_unsigned_despite_key :
    ∃ p, of sampleProfile (metadataWith [[], [sampleCredential]]) none { protocol := .saml20 }
        (.standardWith Suite.standard {}) = .ok p ∧
      (metadataWith [[], [sampleCredential]]).credentials "idp" .identityProvider .signing
        = .ok [sampleCredential] ∧
      (p.consume { resolver := metadataWith [[], [sampleCredential]], replay := {} }
        sampleSurroundings (p.bareResponse "idp" "_a") sampleTime).1
        = .ok (p.bareAssertion "idp" "_a") ∧
      ¬ KeySigned Suite.standard [sampleCredential] (p.bareResponse "idp" "_a")
        (p.bareAssertion "idp" "_a") :=
  ⟨_, rfl, rfl, rfl, not_keySigned_bare _ Suite.standard _ "idp" "_a"⟩

end RelyingParty

end Federation.Exchange
