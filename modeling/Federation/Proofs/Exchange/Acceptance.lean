import Federation.Exchange.RelyingParty
import Federation.Proofs.Crypto.Generation
import Federation.Proofs.Exchange.Replay
import Federation.Proofs.Metadata.Credentials
import Federation.Proofs.Saml.Sending

/-!
# What a relying party accepts

A relying party with the standard capabilities answers an assertion exactly if the response carries
it, somebody whom metadata know vouches for it, and every check of its lifecycle passes.

    (p.consume s around r now).1 = ok a ↔ p.Accepts suite resolver s.replay random r a now wall

The resolver is the one after the refresh that a call begins with. Three things can vouch for an
assertion (`Vouched`): its own signature, that of a response from the same issuer, or the rule for
messages that nobody signs.

- `Carries` says where the assertion of a response comes from.
- `Believed` holds what `examine` checks, and `Validator.Passes` what the lifecycle checks.
-/

namespace Federation.Exchange

open Federation.Saml Federation.Time Federation.Metadata
open Federation.Crypto (Suite Random PublicCredential PrivateCredential)

/-- The standard capabilities, with the algorithm and the key placement of an encrypter. -/
def Capabilities.standardWith (suite : Suite) (x : Encrypter) : Capabilities :=
  (standard suite).put (.encrypts (.ofEncrypter suite x))

/-! ## Signers -/

/-- Metadata publish a key to sign with for an identity provider. -/
def SigningKey (r : Resolver) (id : String) (key : PublicCredential) : Prop :=
  ∃ s, r.snapshot = some s ∧ ∃ e, s.document.entity? id = some e ∧
    ∃ d ∈ e.roles, d.role = .identityProvider ∧
    ∃ k ∈ d.keys, (k.use = .signing ∨ k.use = .unspecified) ∧ k.key = key

/-- A signature of an object is right under a key that the issuer of the object publishes. -/
def SignedBy {α : Type} [Signable α] (suite : Suite) (r : Resolver) (issuer : Option String)
    (target : α) (s : SignatureRecord) : Prop :=
  ∃ id, issuer = some id ∧ ∃ key, SigningKey r id key ∧ Verifies suite target s key

theorem signingKey_iff (r : Resolver) (id : String) (key : PublicCredential) :
    SigningKey r id key ↔ r.Publishes id .identityProvider .signing key := by
  unfold SigningKey Resolver.Publishes Document.Publishes
  simp only [permits_iff, reduceCtorEq, or_false]

/-- Of the keys that an issuer publishes, the credentials that metadata answer for it are enough to
look at. -/
theorem signedBy_iff_credentials {α : Type} [Signable α] (suite : Suite)
    (hsuite : suite.VerifiesByBits) (r : Resolver) (id : String) (target : α)
    (s : SignatureRecord) :
    SignedBy suite r (some id) target s ↔
      ∃ keys, r.credentials id .identityProvider .signing = .ok keys ∧
        ∃ key ∈ keys, Verifies suite target s key := by
  rw [r.exists_credential_iff id .identityProvider .signing (Verifies suite target s)
    (fun a b => Verifies.of_sameKey suite hsuite target s a b)]
  unfold SignedBy
  simp only [Option.some.injEq, exists_eq_left', signingKey_iff]

theorem Validator.validate_eq_ok (v : Validator) (r : Resolver) (s : ReplayStore) (a : Assertion)
    (now wall : Instant) :
    (v.validate r s a now wall).1 = .ok () ↔ v.Passes r a now ∧ s.seen a.id wall = false := by
  unfold validate
  cases hcheck : v.check r a now with
  | error f =>
    simp only [reduceCtorEq, false_iff, not_and]
    intro hpasses
    obtain ⟨window, hwindow, -⟩ := hpasses.window
    have hok := (v.check_eq_ok r a now _).2 ⟨hpasses, window, hwindow, rfl⟩
    rw [hcheck] at hok
    cases hok
  | ok expiry =>
    have hpasses := ((v.check_eq_ok r a now expiry).1 hcheck).1
    show (s.claim a.id expiry wall).1 = .ok () ↔ _
    rw [ReplayStore.claim_eq]
    cases s.seen a.id wall <;> simp [hpasses]

namespace RelyingParty

theorem checkSignature_eq_ok {α : Type} [Signable α] (suite : Suite) (hsuite : suite.VerifiesByBits)
    (resolver : Resolver) (issuer : Option String) (target : α) (s : SignatureRecord)
    (hs : Signable.signature? target = some s) :
    checkSignature resolver issuer (fun anchor => validate suite target anchor) = .ok () ↔
      SignedBy suite resolver issuer target s := by
  unfold checkSignature
  cases issuer with
  | none => simp [SignedBy]
  | some id =>
    rw [signedBy_iff_credentials suite hsuite]
    rw [bind_eq_ok]
    constructor
    · rintro ⟨valid, hvalid, h⟩
      cases valid with
      | false => cases h
      | true =>
        obtain ⟨s', hs', keys, hanchor, key, hkey, hverifies⟩ :=
          (validate_eq_ok_true _ _ _).1 hvalid
        rw [hs] at hs'
        cases hs'
        exact ⟨keys, (mapError_eq_ok _ _ _).1 hanchor, key, hkey, hverifies⟩
    · rintro ⟨keys, hanchor, key, hkey, hverifies⟩
      refine ⟨true, (validate_eq_ok_true _ _ _).2 ⟨s, hs, keys, ?_, key, hkey, hverifies⟩, rfl⟩
      exact (mapError_eq_ok _ _ _).2 hanchor

/-! ## Examining -/

/-- A response carries an assertion, plain or encrypted for the party. -/
def Carries (p : RelyingParty) (random : Random) (r : Response) (a : Assertion) : Prop :=
  r.payload = some (.plain a) ∨ ∃ e key, r.payload = some (.encrypted e) ∧
    p.decryptionKey = some key ∧
    p.capabilities.encrypts.decrypt random e key p.serviceProvider.entityId = .ok a

/-- Somebody vouches for the assertion of a response. -/
def Vouched (p : RelyingParty) (suite : Suite) (resolver : Resolver) (r : Response)
    (a : Assertion) : Prop :=
  match a.signature, r.signature with
  | some s, _ => SignedBy suite resolver a.issuer a s
  | none, some _ => a.issuer.isSome ∧ r.effectiveIssuer = a.issuer
  | none, none => p.profile.requireSigned = false ∧ ∃ id idp, a.issuer = some id ∧
      resolver.trusted ⟨id, .identityProvider, p.profile.protocol⟩ = .ok idp ∧ idp.signingKeys = []

/-- A response carries an assertion that can be believed. -/
structure Believed (p : RelyingParty) (suite : Suite) (resolver : Resolver) (random : Random)
    (r : Response) (a : Assertion) : Prop where
  protocol : r.protocol = p.profile.protocol
  signed : ∀ s, r.signature = some s → SignedBy suite resolver r.effectiveIssuer r s
  addressed : ∀ expected d, p.destination = some expected → r.destination = some d → d = expected
  success : r.status = .success
  carried : p.Carries random r a
  vouched : p.Vouched suite resolver r a

theorem checkProtocol_eq_ok (p : RelyingParty) (r : Response) :
    p.checkProtocol r = .ok () ↔ r.protocol = p.profile.protocol := by
  unfold checkProtocol
  exact ite_ok_eq_ok _ _

theorem checkDestination_eq_ok (p : RelyingParty) (r : Response) :
    p.checkDestination r = .ok () ↔ ∀ expected d, p.destination = some expected →
      r.destination = some d → d = expected := by
  unfold checkDestination
  constructor
  · intro h expected d hexpected hd
    rw [hexpected, hd] at h
    exact ((ite_ok_eq_ok _ _).1 h).symm
  · intro h
    split
    · next expected d hexpected hd => exact (ite_ok_eq_ok _ _).2 (h expected d hexpected hd).symm
    · rfl

theorem checkStatus_eq_ok (p : RelyingParty) (r : Response) :
    p.checkStatus r = .ok () ↔ r.status = .success := by
  unfold checkStatus
  exact ite_ok_eq_ok _ _

theorem openPayload_eq_ok (p : RelyingParty) (random : Random) (r : Response) (a : Assertion) :
    p.openPayload random r = .ok a ↔ p.Carries random r a := by
  unfold openPayload Carries
  constructor
  · intro h
    split at h
    · next b hb =>
      cases h
      exact Or.inl hb
    · next e key he hkey => exact Or.inr ⟨e, key, he, hkey, h⟩
    · cases h
    · cases h
  · rintro (h | ⟨e, key, he, hkey, h⟩)
    · rw [h]
    · rw [he, hkey]
      exact h

theorem checkSameIssuer_eq_ok (r : Response) (a : Assertion) :
    checkSameIssuer r a = .ok () ↔ a.issuer.isSome ∧ r.effectiveIssuer = a.issuer := by
  unfold checkSameIssuer
  rw [ite_ok_eq_ok]
  constructor
  · rintro ⟨hsome, heq⟩
    exact ⟨heq ▸ hsome, heq⟩
  · rintro ⟨hsome, heq⟩
    exact ⟨heq ▸ hsome, heq⟩

theorem mustSign_eq_false (idp : TrustedEntity) : idp.mustSign = false ↔ idp.signingKeys = [] := by
  unfold TrustedEntity.mustSign
  rw [Bool.not_eq_false', List.isEmpty_iff]

theorem checkUnsignedAllowed_eq_ok (p : RelyingParty) (resolver : Resolver) (a : Assertion) :
    p.checkUnsignedAllowed resolver a = .ok () ↔
      p.profile.requireSigned = false ∧ ∃ id idp, a.issuer = some id ∧
        resolver.trusted ⟨id, .identityProvider, p.profile.protocol⟩ = .ok idp ∧
        idp.signingKeys = [] := by
  unfold checkUnsignedAllowed
  cases ha : a.issuer with
  | none => simp
  | some id =>
    simp only [Option.some.injEq, exists_and_left, exists_eq_left']
    rw [bind_eq_ok]
    simp only [Validator.issuer_eq_ok]
    constructor
    · rintro ⟨idp, hidp, h⟩
      by_cases hsign : (p.profile.requireSigned || idp.mustSign) = true
      · rw [if_pos hsign] at h
        cases h
      · rw [Bool.not_eq_true, Bool.or_eq_false_iff] at hsign
        exact ⟨hsign.1, idp, hidp, (mustSign_eq_false idp).1 hsign.2⟩
    · rintro ⟨hrequire, idp, hidp, hkeys⟩
      refine ⟨idp, hidp, ?_⟩
      rw [hrequire, (mustSign_eq_false idp).2 hkeys]
      rfl

section
variable (p : RelyingParty) (suite : Suite) (hsuite : suite.VerifiesByBits) (x : Encrypter)
  (hp : p.capabilities = .standardWith suite x)
include hsuite hp

theorem checkVouched_eq_ok (resolver : Resolver) (r : Response) (a : Assertion) :
    p.checkVouched resolver r a = .ok () ↔ p.Vouched suite resolver r a := by
  unfold checkVouched Vouched
  rw [hp]
  cases ha : a.signature with
  | some s =>
    simp only [Option.isSome_some, if_true]
    exact checkSignature_eq_ok suite hsuite resolver a.issuer a s ha
  | none =>
    cases r.signature with
    | some s =>
      simp only [Option.isSome_none, Option.isSome_some, if_true, Bool.false_eq_true, if_false]
      exact checkSameIssuer_eq_ok r a
    | none =>
      simp only [Option.isSome_none, Bool.false_eq_true, if_false]
      exact p.checkUnsignedAllowed_eq_ok resolver a

theorem checkResponseSignature_eq_ok (resolver : Resolver) (r : Response) :
    (r.signature.isSome = true → checkSignature resolver r.effectiveIssuer
      (p.capabilities.signs.validateResponse r) = .ok ()) ↔
      ∀ s, r.signature = some s → SignedBy suite resolver r.effectiveIssuer r s := by
  rw [hp]
  cases hr : r.signature with
  | none => simp
  | some s =>
    simp only [Option.isSome_some, true_implies, Option.some.injEq, forall_eq']
    exact checkSignature_eq_ok suite hsuite resolver r.effectiveIssuer r s hr

theorem examine_eq_ok (resolver : Resolver) (random : Random) (r : Response) (a : Assertion) :
    p.examine resolver random r = .ok a ↔ p.Believed suite resolver random r a := by
  unfold examine
  simp only [unit_bind_eq_ok, ite_bind_eq_ok, bind_eq_ok (p.openPayload random r),
    checkProtocol_eq_ok, checkDestination_eq_ok, checkStatus_eq_ok, openPayload_eq_ok,
    p.checkVouched_eq_ok suite hsuite x hp, p.checkResponseSignature_eq_ok suite hsuite x hp]
  constructor
  · rintro ⟨h1, h2, h3, h4, b, h5, h6, hb⟩
    cases hb
    exact ⟨h1, h2, h3, h4, h5, h6⟩
  · rintro ⟨h1, h2, h3, h4, h5, h6⟩
    exact ⟨h1, h2, h3, h4, a, h5, h6, rfl⟩

end

/-! ## Accepting -/

/-- A response is accepted with an assertion. -/
structure Accepts (p : RelyingParty) (suite : Suite) (resolver : Resolver) (replay : ReplayStore)
    (random : Random) (r : Response) (a : Assertion) (now wall : Instant) : Prop where
  believed : p.Believed suite resolver random r a
  protocol : a.protocol = p.profile.protocol
  issuer : ∃ id, a.issuer = some id ∧ id ≠ "" ∧ Validator.Knows resolver p.profile.protocol id
  window : ∃ window, a.validity = some window ∧ window.contains now p.validator.skew = true
  subject : ∃ s, a.subject = some s ∧ s.identifier ≠ ""
  destination : ∀ expected s d, p.validator.destination = some expected → a.subject = some s →
    s.destination = some d → d = expected
  /-- The identifier is not remembered, on the clock of the replay store. -/
  fresh : replay.seen a.id wall = false

theorem accepts_iff (p : RelyingParty) (hp : p.validator.protocol = p.profile.protocol)
    (suite : Suite) (resolver : Resolver) (replay : ReplayStore) (random : Random) (r : Response)
    (a : Assertion) (now wall : Instant) :
    p.Accepts suite resolver replay random r a now wall ↔ p.Believed suite resolver random r a ∧
      p.validator.Passes resolver a now ∧ replay.seen a.id wall = false := by
  constructor
  · rintro ⟨h1, h2, h3, h4, h5, h6, h7⟩
    exact ⟨h1, ⟨hp ▸ h2, hp ▸ h3, h4, h5, h6⟩, h7⟩
  · rintro ⟨h1, ⟨h2, h3, h4, h5, h6⟩, h7⟩
    exact ⟨h1, hp ▸ h2, hp ▸ h3, h4, h5, h6, h7⟩

theorem of_eq_ok (profile : RelyingProfile) (r : Resolver) (key : Option Crypto.PrivateCredential)
    (validator : Validator) (capabilities : Capabilities) (p : RelyingParty)
    (h : of profile r key validator capabilities = .ok p) :
    p.profile = profile ∧ p.decryptionKey = key ∧ p.capabilities = capabilities ∧
      p.validator.protocol = p.profile.protocol ∧
      r.trusted ⟨profile.serviceProvider, .serviceProvider, profile.protocol⟩
        = .ok p.serviceProvider := by
  unfold of at h
  by_cases hprotocol : validator.protocol ≠ profile.protocol
  · rw [if_pos hprotocol] at h
    cases h
  rw [if_neg hprotocol] at h
  obtain ⟨sp, hsp, h⟩ := (bind_eq_ok _ _ _).1 h
  cases h
  exact ⟨rfl, rfl, rfl, Classical.not_not.1 hprotocol, hsp⟩

theorem judge_eq_ok (p : RelyingParty) (suite : Suite) (hsuite : suite.VerifiesByBits)
    (x : Encrypter) (hp : p.capabilities = .standardWith suite x) (resolver : Resolver)
    (replay : ReplayStore) (random : Random) (r : Response) (now wall : Instant) (a : Assertion) :
    (p.judge resolver replay random r now wall).1 = .ok a ↔
      p.Believed suite resolver random r a ∧ p.validator.Passes resolver a now ∧
        replay.seen a.id wall = false := by
  rw [← p.examine_eq_ok suite hsuite x hp, ← Validator.validate_eq_ok]
  unfold judge
  cases p.examine resolver random r with
  | error f => simp
  | ok b =>
    simp only [Except.ok.injEq]
    cases hvalidate : p.validator.validate resolver replay b now wall with
    | mk answer replay' =>
      cases answer with
      | error f =>
        simp only [reduceCtorEq, false_iff, not_and]
        rintro rfl h
        rw [hvalidate] at h
        cases h
      | ok u =>
        rw [hp]
        show Except.ok b = Except.ok a ↔ _
        rw [Except.ok.injEq]
        constructor
        · rintro rfl
          exact ⟨rfl, by rw [hvalidate]⟩
        · rintro ⟨h, -⟩
          exact h

/-- Metadata of an identity provider without keys and of a service provider. -/
def sampleMetadata : Resolver :=
  { snapshot := some
      { loadedAt := ⟨0⟩
        document := { entities := [
          { entityId := "idp", roles := [{ role := .identityProvider, protocols := [.saml20] }] },
          { entityId := "sp"
            roles := [{ role := .serviceProvider, protocols := [.saml20] }] }] } } }

def sampleProfile : RelyingProfile :=
  { serviceProvider := "sp", protocol := .saml20, expectedDestination := some "https://sp/acs"
    requireSigned := false }

def sampleTime : Instant := .sample 60

def sampleAssertion : Assertion :=
  { id := "_a", protocol := .saml20, issueInstant := .sample 0
    issuer := some "idp"
    subject := some { Subject.bearer "user" .saml20 with destination := some "https://sp/acs" }
    validity := some sampleWindow }

def sampleResponse : Response :=
  { id := "_r", protocol := .saml20, issueInstant := .sample 0
    issuer := some "idp", destination := some "https://sp/acs"
    payload := some (.plain sampleAssertion) }

/-- A relying party answers an assertion exactly if it accepts the response with it. -/
theorem consume_eq_ok (profile : RelyingProfile) (metadata : Resolver)
    (key : Option Crypto.PrivateCredential) (validator : Validator) (x : Encrypter)
    (p : RelyingParty)
    (hp : of profile metadata key validator (.standardWith Suite.standard x) = .ok p)
    (s : RelyingState) (around : Surroundings) (r : Response) (now : Instant) (a : Assertion) :
    (p.consume s around r now).1 = .ok a ↔
      p.Accepts Suite.standard (s.resolver.refreshIfStale around.source around.uptime).2 s.replay
        around.random r a now around.wall := by
  obtain ⟨-, -, hcapabilities, hprotocol, -⟩ := of_eq_ok _ _ _ _ _ _ hp
  rw [p.accepts_iff hprotocol, ← p.judge_eq_ok _ Suite.verifiesByBits_standard x hcapabilities]
  rfl

/-- Metadata of an identity provider with one descriptor for each list of keys to sign with, and of
a service provider. -/
def metadataWith (descriptors : List (List PublicCredential)) : Resolver :=
  { snapshot := some
      { loadedAt := ⟨0⟩
        document := { entities := [
          { entityId := "idp"
            roles := descriptors.map fun keys =>
              { role := .identityProvider, protocols := [.saml20]
                keys := keys.map fun key => { use := .signing, key } } },
          { entityId := "sp"
            roles := [{ role := .serviceProvider, protocols := [.saml20] }] }] } } }

/-- What a party is given that runs on samples. -/
def sampleSurroundings : Surroundings where
  wall := sampleTime
  uptime := ⟨0⟩
  source := .ofDocument {}
  random := ⟨fun _ _ => 0⟩

/-- The identity provider has one key to sign with. -/
def signerMetadata : Resolver := metadataWith [[PrivateCredential.sampleSigner.publicHalf]]

/-- An unsigned response, and a party that accepts it from an issuer without keys; and responses
that their issuer signs, whether they name it or only their assertion does. -/
theorem consume_eq_ok_sample :
    (∃ p, of sampleProfile sampleMetadata none { protocol := .saml20 }
        (.standardWith Suite.standard {}) = .ok p ∧
      p.Accepts Suite.standard sampleMetadata {} ⟨fun _ _ => 0⟩ sampleResponse sampleAssertion
        sampleTime sampleTime) ∧
    ∃ p, of sampleProfile signerMetadata none { protocol := .saml20 }
        (.standardWith Suite.standard {}) = .ok p ∧
      ∀ issuer ∈ [some "idp", none], ∃ t,
        sign Suite.standard { sampleResponse with issuer } .sampleSigner = .ok t ∧
        (p.consume { resolver := signerMetadata, replay := {} } sampleSurroundings t sampleTime).1
          = .ok sampleAssertion := by
  refine ⟨⟨_, rfl, (consume_eq_ok sampleProfile sampleMetadata none { protocol := .saml20 } {} _ rfl
    { resolver := sampleMetadata, replay := {} } sampleSurroundings sampleResponse sampleTime
    sampleAssertion).1 rfl⟩, _, rfl, fun issuer hissuer => ?_⟩
  have hsigns := PrivateCredential.signs_sampleSigner
  obtain ⟨v, hsign, -⟩ := exists_sign Suite.standard _ hsigns { sampleResponse with issuer } _ rfl
  obtain ⟨v', hv, hverifies⟩ := verifies_of_sign Suite.standard _ _ _ _
    (hsigns.pairs _ (PublicCredential.sameKey_refl _)) hsign
  cases hv
  have heffective : (Signable.attach { sampleResponse with issuer } v).effectiveIssuer
      = some "idp" := by
    rcases List.mem_cons.1 hissuer with rfl | hissuer
    · rfl
    · cases List.mem_singleton.1 hissuer
      rfl
  refine ⟨_, hsign, (consume_eq_ok sampleProfile signerMetadata none { protocol := .saml20 }
    {} _ rfl _ _ _ _ _).2 ⟨⟨rfl, ?_, ?_, rfl, Or.inl rfl, ?_⟩, rfl, ⟨"idp", rfl, by decide, _, rfl⟩,
      ⟨_, rfl, ?_⟩, ⟨_, rfl, by decide⟩, ?_, rfl⟩⟩
  · rintro s ⟨⟩
    rw [heffective]
    exact (signedBy_iff_credentials Suite.standard Suite.verifiesByBits_standard _ "idp" _ _).2
      ⟨_, rfl, _, List.mem_singleton_self _, hverifies⟩
  · rintro expected d ⟨⟩ ⟨⟩
    rfl
  · exact ⟨rfl, heffective⟩
  · exact contains_of_within _ _ _ (by decide) (by decide)
  · rintro expected subject d ⟨⟩ ⟨⟩ ⟨⟩
    rfl

end RelyingParty

end Federation.Exchange
