import Federation.Proofs.Exchange.RoundTrip

/-!
# How a delivery is protected

Where a response goes, whether its assertion is encrypted and for which key (`Designates`) follows
from the first descriptor of the service provider that supports the protocol; whether anything is
signed follows from there being a key to sign with. Nothing is left out for another reason.

    AssertingParty.of profile r key (.standardWith suite x) = ok p  →
      (p.produce q now random log).1 = ok d  →  Protected profile key descriptor … d

What is encrypted, the holder of the designated key gets back (`EncryptedFor`), and what is signed
verifies under the public half of the key (`Bears`). If a step of the protection fails, the call
fails as that step does (`ProtectionFails`).
-/

namespace Federation.Metadata

open Federation.Saml
open Federation.Crypto (KeyTransport PublicCredential)

/-! ## Descriptors -/

/-- Dropping the later endpoints of each binding does not change which one is found. -/
theorem find?_firstEndpoints (l : List Endpoint) (b : Binding) :
    (firstEndpoints l).find? (·.binding = b) = l.find? (·.binding = b) := by
  induction l with
  | nil => rfl
  | cons e rest ih =>
    unfold firstEndpoints
    rw [List.find?_cons, List.find?_cons]
    by_cases he : e.binding = b
    · rw [decide_eq_true he]
    · rw [decide_eq_false he, List.find?_filter, ← ih]
      have hsame (e' : Endpoint) :
          decide (decide (e'.binding ≠ e.binding) = true ∧ decide (e'.binding = b) = true)
            = decide (e'.binding = b) := by
        by_cases he' : e'.binding = b
        · simp [he', Ne.symm he]
        · simp [he']
      simp only [hsame]

/-- A key that assertions can be encrypted with: one that can wrap session keys, and is published to
encrypt with or for any use. -/
def KeyDescriptor.Encrypts (k : KeyDescriptor) : Prop :=
  k.key.family = .rsa ∧ (k.use = .encryption ∨ k.use = .unspecified)

instance (k : KeyDescriptor) : Decidable k.Encrypts := inferInstanceAs (Decidable (_ ∧ _))

/-- An algorithm that wraps session keys, be it one that is refused. -/
def WrapsKeys (uri : String) : Prop :=
  uri = KeyTransport.rsa15Uri ∨ ∃ t ∈ KeyTransport.all, t.uri = uri

instance (uri : String) : Decidable (WrapsKeys uri) := inferInstanceAs (Decidable (_ ∨ _))

theorem isKeyTransportUri_eq (uri : String) :
    KeyTransport.isKeyTransportUri uri = decide (WrapsKeys uri) := by
  have hknown : (KeyTransport.ofUri uri).isOk = true ↔ ∃ t ∈ KeyTransport.all, t.uri = uri := by
    constructor
    · intro h
      obtain ⟨t, ht⟩ := exists_ok _ h
      exact ⟨t, by cases t <;> decide, (keyTransport_ofUri_eq_ok uri t).1 ht⟩
    · rintro ⟨t, -, ht⟩
      rw [(keyTransport_ofUri_eq_ok uri t).2 ht]
      rfl
  rw [Bool.eq_iff_iff, decide_eq_true_eq]
  unfold KeyTransport.isKeyTransportUri WrapsKeys
  rw [Bool.or_eq_true, beq_iff_eq, hknown]

/-- The key that assertions for a service provider are encrypted with, and the algorithm that wraps
the session key: the first key that can serve, and the first algorithm that is listed with it. -/
structure Designates (protocol : Protocol) (default : KeyTransport) (r : RoleDescriptor)
    (key : PublicCredential) (uri : String) : Prop where
  protocol : protocol = .saml20
  listed : ∃ k, r.keys.find? (fun k => decide k.Encrypts) = some k ∧ k.key = key ∧
    (k.encryptionMethods.find? fun uri => decide (WrapsKeys uri)).getD default.uri = uri

namespace RoleDescriptor

theorem encryptionKey?_eq (r : RoleDescriptor) :
    r.encryptionKey? = r.keys.find? fun k => decide k.Encrypts := by
  have hsame (k : KeyDescriptor) :
      (k.use.permits .encryption && k.key.family.supportsKeyTransport) = decide k.Encrypts := by
    have huse :
        k.use.permits .encryption = decide (k.use = .encryption ∨ k.use = .unspecified) := by
      rw [Bool.eq_iff_iff, permits_iff]
      simp
    have hfamily : k.key.family.supportsKeyTransport = decide (k.key.family = .rsa) := rfl
    rw [huse, hfamily, Bool.and_comm, ← Bool.decide_and]
    rfl
  unfold encryptionKey?
  simp only [hsame]

theorem encryptionKey?_isSome (r : RoleDescriptor) :
    r.encryptionKey?.isSome = true ↔ ∃ k ∈ r.keys, k.Encrypts := by
  rw [r.encryptionKey?_eq, List.find?_isSome]
  simp only [decide_eq_true_eq]

end RoleDescriptor

theorem TrustedEntity.endpoint_ofDescriptor (default : KeyTransport) (id : String) (p : Protocol)
    (r : RoleDescriptor) (b : Binding) (location : String) :
    (TrustedEntity.ofDescriptor default id p r).endpoint b = .ok location ↔
      ∃ e, r.endpoints.find? (·.binding = b) = some e ∧ e.location = location := by
  unfold endpoint ofDescriptor
  simp only [find?_firstEndpoints]
  cases r.endpoints.find? (·.binding = b) with
  | none => simp
  | some e => simp

end Federation.Metadata

namespace Federation.Exchange

open Federation.Saml Federation.Time Federation.Metadata
open Federation.Crypto (Suite Random PublicCredential PrivateCredential KeyTransport)

/-! ## Windows -/

/-- The window that a request asks for starts when it says and lasts as long as it says. -/
theorem Request.window_eq_ok (q : Request) (s : Setting) (window : Validity)
    (h : q.window s = .ok window) : window.notBefore = q.notBefore.getD s.now ∧
      (q.notBefore.getD s.now).add? (q.lifetime.getD s.lifetime) = some window.notOnOrAfter := by
  unfold Request.window at h
  cases hend : (q.notBefore.getD s.now).add? (q.lifetime.getD s.lifetime) with
  | none =>
    simp only [hend] at h
    cases h
  | some notOnOrAfter =>
    simp only [hend] at h
    unfold Validity.of at h
    split at h
    · cases h
      exact ⟨rfl, rfl⟩
    · cases h

namespace AssertingParty

/-! ## Parties -/

/-- A party that must sign has a key to sign with, and its service provider is the one that metadata
describe. -/
theorem provided_of (profile : AssertingProfile) (r : Resolver) (key : Option PrivateCredential)
    (capabilities : Capabilities) (p : AssertingParty)
    (h : of profile r key capabilities = .ok p) :
    (profile.requireSigning = true → key.isSome = true) ∧
    ∃ document entity descriptor, r.document = .ok document ∧
      document.entity? profile.serviceProvider = some entity ∧
      entity.role? .serviceProvider profile.protocol = some descriptor ∧
      p.serviceProvider =
        .ofDescriptor r.defaultTransport profile.serviceProvider profile.protocol descriptor := by
  unfold of at h
  by_cases hkey : profile.requireSigning ∧ key.isNone
  · rw [if_pos hkey] at h
    cases h
  rw [if_neg hkey] at h
  obtain ⟨idp, -, h⟩ := (bind_eq_ok _ _ _).1 h
  obtain ⟨sp, hsp, h⟩ := (bind_eq_ok _ _ _).1 h
  cases h
  refine ⟨fun hrequired => ?_, (r.trusted_eq_ok _ _).1 hsp⟩
  cases key with
  | some c => rfl
  | none => exact absurd ⟨hrequired, rfl⟩ hkey

theorem encryption_eq_some (p : AssertingParty) (default : KeyTransport) (id : String)
    (protocol : Protocol) (descriptor : RoleDescriptor)
    (hsp : p.serviceProvider = .ofDescriptor default id protocol descriptor)
    (recipient : PublicCredential) (uri : String) :
    p.encryption = some (recipient, uri) ↔
      Designates p.profile.protocol default descriptor recipient uri := by
  have htransport (k : KeyDescriptor) : k.transport default
      = (k.encryptionMethods.find? fun uri => decide (WrapsKeys uri)).getD default.uri := by
    unfold KeyDescriptor.transport
    simp only [← isKeyTransportUri_eq]
  have hlisted : (TrustedEntity.ofDescriptor default id protocol descriptor).encryption
      = some (recipient, uri) ↔
        ∃ k, descriptor.keys.find? (fun k => decide k.Encrypts) = some k ∧ k.key = recipient ∧
          k.transport default = uri := by
    rw [← descriptor.encryptionKey?_eq]
    simp [TrustedEntity.ofDescriptor]
  simp only [htransport] at hlisted
  unfold encryption
  rw [hsp]
  cases hprotocol : p.profile.protocol with
  | saml11 => exact ⟨nofun, fun h => nomatch h.protocol⟩
  | saml20 => exact hlisted.trans ⟨fun h => ⟨rfl, h⟩, fun h => h.listed⟩

theorem encryption_isSome (p : AssertingParty) (default : KeyTransport) (id : String)
    (protocol : Protocol) (descriptor : RoleDescriptor)
    (hsp : p.serviceProvider = .ofDescriptor default id protocol descriptor) :
    p.encryption.isSome = true ↔
      p.profile.protocol = .saml20 ∧ ∃ k ∈ descriptor.keys, k.Encrypts := by
  unfold encryption
  rw [← descriptor.encryptionKey?_isSome, hsp]
  cases p.profile.protocol with
  | saml11 => simp
  | saml20 => simp [TrustedEntity.ofDescriptor]

/-! ## Signatures -/

/-- An object carries the record that a key makes for it, which is right under the public keys that
go with that key. -/
def Bears {α : Type} [Signable α] (suite : Suite) (c : PrivateCredential) (t : α) : Prop :=
  ∃ s, Signable.signature? t = some s ∧ Makes suite c t s ∧
    ∀ key, suite.Pairs c key → Verifies suite t s key

/-- A signature stands where there is a key, and it is the key's. -/
theorem SignedWith.bears {α : Type} [Signable α] [LawfulSignable α] (suite : Suite)
    (key : Option PrivateCredential) (target t : α) (htarget : Signable.signature? target = none)
    (h : SignedWith suite key target t) :
    ((Signable.signature? t).isSome = true ↔ key.isSome = true) ∧
      ∀ c, key = some c → Bears suite c t := by
  cases key with
  | none =>
    cases h
    rw [htarget]
    exact ⟨Iff.rfl, nofun⟩
  | some c =>
    obtain ⟨s, hmakes, rfl⟩ := (sign_eq_ok_iff_makes ..).1 h
    rw [LawfulSignable.signature?_attach]
    refine ⟨Iff.rfl, fun c' hc => ?_⟩
    cases hc
    exact ⟨s, LawfulSignable.signature?_attach .., hmakes.attach s, (hmakes.attach s).verifies⟩

/-! ## Deliveries -/

/-- An assertion is encrypted for the holder of a key, who gets it back. -/
structure EncryptedFor (x : Encrypter) (suite : Suite) (random : Random) (a : Assertion)
    (key : PublicCredential) (t : KeyTransport) (id : Option String) (e : EncryptedAssertion) :
    Prop where
  enciphers : x.Enciphers suite random a key t id e
  decrypts : a.Representable → ∀ c, suite.Opens c key → ∀ y : Encrypter,
    y.searches = KeySearch.all → ∀ random' id', y.decrypt suite random' e c id' = .ok a

/-- What a delivery is, by the descriptor of its recipient and the key there is to sign with. -/
structure Protected (profile : AssertingProfile) (key : Option PrivateCredential) (suite : Suite)
    (x : Encrypter) (default : KeyTransport) (descriptor : RoleDescriptor) (q : Request)
    (now : Instant) (random : Random) (d : Delivery) : Prop where
  /-- It goes to the first endpoint that is listed for the binding. -/
  addressed : ∃ endpoint, descriptor.endpoints.find? (·.binding = profile.binding) = some endpoint ∧
    d.destination = endpoint.location ∧ d.response.destination = some endpoint.location
  window : ∃ window, d.assertion.validity = some window ∧
    window.notBefore = q.notBefore.getD now ∧
    (q.notBefore.getD now).add? (q.lifetime.getD profile.lifetime) = some window.notOnOrAfter
  encrypted_iff : (∃ e, d.response.payload = some (.encrypted e)) ↔
    profile.protocol = .saml20 ∧ ∃ k ∈ descriptor.keys, k.Encrypts
  encrypted : ∀ e, d.response.payload = some (.encrypted e) →
    ∃ recipient t, Designates profile.protocol default descriptor recipient t.uri ∧
      EncryptedFor x suite random d.assertion recipient t (some profile.serviceProvider) e
  plain : (¬ ∃ e, d.response.payload = some (.encrypted e)) →
    d.response.payload = some (.plain d.assertion) ∧
    (d.assertion.signature.isSome = true ↔ key.isSome = true) ∧
    ∀ c, key = some c → Bears suite c d.assertion
  signed_iff : d.response.signature.isSome = true ↔ key.isSome = true
  signed : ∀ c, key = some c → Bears suite c d.response
  required : profile.requireSigning = true → d.response.signature.isSome = true
  written : d.response.encode = .ok d.xml

/-- A step of the protection of the assertion that a request asks for fails: its encryption for the
designated key, its signature where no key is designated, or the signature of the response around
it. -/
inductive ProtectionFails (p : AssertingParty) (suite : Suite) (x : Encrypter)
    (default : KeyTransport) (descriptor : RoleDescriptor) (q : Request) (now : Instant)
    (random : Random) (destination : String) (stated : Assertion) (f : Failure) : Prop
  | encryption (recipient : PublicCredential) (uri : String)
      (hrecipient : Designates p.profile.protocol default descriptor recipient uri)
      (h : x.EncryptionFails suite random stated recipient uri f)
  | assertion (c : PrivateCredential)
      (hplain : ∀ key uri, ¬ Designates p.profile.protocol default descriptor key uri)
      (hc : p.signingKey = some c) (h : SigningFails suite c stated f)
  | encryptedResponse (c : PrivateCredential) (recipient : PublicCredential) (t : KeyTransport)
      (e : EncryptedAssertion)
      (hrecipient : Designates p.profile.protocol default descriptor recipient t.uri)
      (he : x.Enciphers suite random stated recipient t (some p.serviceProvider.entityId) e)
      (hc : p.signingKey = some c)
      (h : SigningFails suite c (p.unsigned q now random destination (.encrypted e)) f)
  | plainResponse (c : PrivateCredential) (s : SignatureRecord)
      (hplain : ∀ key uri, ¬ Designates p.profile.protocol default descriptor key uri)
      (hs : Makes suite c stated s) (hc : p.signingKey = some c)
      (h : SigningFails suite c
        (p.unsigned q now random destination (.plain { stated with signature := some s })) f)

section
variable (p : AssertingParty) (suite : Suite) (x : Encrypter)
  (hp : p.capabilities = .standardWith suite x) (default : KeyTransport)
  (descriptor : RoleDescriptor)
  (hsp : p.serviceProvider =
    .ofDescriptor default p.profile.serviceProvider p.profile.protocol descriptor)
  (q : Request) (now : Instant) (random : Random)
include hp hsp

/-- Either the payload cannot be made, or the response that carries it cannot be signed. -/
theorem payload_of_protectionFails (destination : String) (stated : Assertion) (f : Failure)
    (h : p.ProtectionFails suite x default descriptor q now random destination stated f) :
    p.payload stated random = .error f ∨
      ∃ payload a c, p.payload stated random = .ok (payload, a) ∧ p.signingKey = some c ∧
        sign suite (p.unsigned q now random destination payload) c = .error f := by
  have hdesignates := p.encryption_eq_some default _ _ descriptor hsp
  have hnone (hplain : ∀ key uri, ¬ Designates p.profile.protocol default descriptor key uri) :
      p.encryption = none := by
    rw [Option.eq_none_iff_forall_ne_some]
    rintro ⟨key, uri⟩ h
    exact hplain key uri ((hdesignates key uri).1 h)
  cases h with
  | encryption recipient uri hrecipient h =>
    have hfails : p.capabilities.encrypts.encrypt random stated recipient uri
        (some p.serviceProvider.entityId) = .error f := by
      rw [hp]
      exact x.encrypt_eq_error suite random stated recipient _ uri f h
    unfold AssertingParty.payload
    simp only [(hdesignates recipient uri).2 hrecipient, hfails]
    exact Or.inl rfl
  | assertion c hplain hc h =>
    have hfails : p.capabilities.signs.signAssertion stated c = .error f := by
      rw [hp]
      exact sign_eq_error suite stated c f h
    unfold AssertingParty.payload
    simp only [hnone hplain, hc, hfails]
    exact Or.inl rfl
  | encryptedResponse c recipient t e hrecipient he hc h =>
    refine Or.inr ⟨.encrypted e, stated, c, p.payload_of_packed suite x hp random _ _ _ ?_, hc,
      sign_eq_error _ _ _ _ h⟩
    exact Or.inl ⟨recipient, t.uri, e, (hdesignates recipient t.uri).2 hrecipient,
      (x.encrypt_eq_ok_iff_enciphers ..).2 ⟨t, rfl, he⟩, rfl, rfl⟩
  | plainResponse c s hplain hs hc h =>
    refine Or.inr ⟨_, { stated with signature := some s }, c,
      p.payload_of_packed suite x hp random _ _ _ ?_, hc, sign_eq_error _ _ _ _ h⟩
    refine Or.inr ⟨hnone hplain, ?_, rfl⟩
    rw [hc]
    exact (sign_eq_ok_iff_makes ..).2 ⟨s, hs, rfl⟩

/-- The call fails as the step does. -/
theorem respond_of_protectionFails (endpoint : Endpoint) (window : Validity) (f : Failure)
    (hendpoint : descriptor.endpoints.find? (·.binding = p.profile.binding) = some endpoint)
    (hwindow : q.window (p.setting endpoint.location now) = .ok window)
    (h : p.ProtectionFails suite x default descriptor q now random endpoint.location
      (q.stated (p.setting endpoint.location now) random window) f) :
    p.respond q now random = .error f := by
  have hlocated : p.serviceProvider.endpoint p.profile.binding = .ok endpoint.location := by
    rw [hsp]
    exact (TrustedEntity.endpoint_ofDescriptor ..).2 ⟨endpoint, hendpoint, rfl⟩
  have hbuilt : p.capabilities.builds.build q (p.setting endpoint.location now) random
      = .ok (q.stated (p.setting endpoint.location now) random window) := by
    rw [hp]
    exact (Request.build_eq_ok ..).2 ⟨window, hwindow, rfl⟩
  unfold respond
  rw [hlocated, ok_bind, hbuilt, ok_bind]
  obtain hpayload | ⟨payload, a, c, hpayload, hc, hsign⟩ :=
    payload_of_protectionFails p suite x hp default descriptor hsp q now random _ _ f h
  · rw [hpayload]
    rfl
  · have hfails : p.capabilities.signs.signResponse
        (p.unsigned q now random endpoint.location payload) c = .error f := by
      rw [hp]
      exact hsign
    rw [hpayload, ok_bind, hc]
    exact congrArg (· >>= _) hfails

end

theorem protected_of_answers (p : AssertingParty) (suite : Suite) (x : Encrypter)
    (default : KeyTransport) (descriptor : RoleDescriptor)
    (hsp : p.serviceProvider =
      .ofDescriptor default p.profile.serviceProvider p.profile.protocol descriptor)
    (hrequired : p.profile.requireSigning = true → p.signingKey.isSome = true)
    (q : Request) (now : Instant) (random : Random) (d : Delivery)
    (h : p.Answers suite x q now random d) :
    Protected p.profile p.signingKey suite x default descriptor q now random d := by
  obtain ⟨window, payload, hwindow, hpacked, hresponse⟩ := h.stated
  obtain ⟨endpoint, hendpoint, hlocation⟩ :=
    (TrustedEntity.endpoint_ofDescriptor ..).1 (hsp ▸ h.located)
  obtain ⟨hsigned, hbears⟩ := hresponse.bears suite p.signingKey _ _ rfl
  obtain ⟨s, hr⟩ : ∃ s, d.response =
      { p.unsigned q now random d.destination payload with signature := s } := by
    obtain hr | ⟨s, hr⟩ := hresponse.eq_or_attach
    · exact ⟨none, hr⟩
    · exact ⟨some s, hr⟩
  have hpayload : d.response.payload = some payload := by
    rw [hr]
    rfl
  have hdestination : d.response.destination = some d.destination := by
    rw [hr]
    rfl
  have hencrypts : (∃ e, payload = .encrypted e) ↔ p.encryption.isSome = true := by
    obtain ⟨recipient, transport, e, hrecipient, -, he, -⟩ | ⟨hnone, -, hplain⟩ := hpacked
    · rw [hrecipient, he]
      exact ⟨fun _ => rfl, fun _ => ⟨e, rfl⟩⟩
    · rw [hnone, hplain]
      constructor
      · rintro ⟨e, he⟩
        cases he
      · intro h
        cases h
  refine
    { addressed := ⟨endpoint, hendpoint, hlocation.symm, hlocation ▸ hdestination⟩
      window := ⟨window, ?_, q.window_eq_ok _ window hwindow⟩
      encrypted_iff := ?_, encrypted := ?_, plain := ?_
      signed_iff := hsigned, signed := hbears
      required := fun hr => hsigned.2 (hrequired hr), written := h.written }
  · obtain ⟨signature, ha⟩ := hpacked.assertion_eq
    rw [ha]
    rfl
  · rw [hpayload, ← p.encryption_isSome default _ _ descriptor hsp, ← hencrypts]
    simp only [Option.some.injEq]
  · intro e he
    rw [hpayload, Option.some.injEq] at he
    obtain ⟨recipient, uri, e', hrecipient, hencrypt, he', ha⟩ | ⟨-, -, hplain⟩ := hpacked
    · cases he.symm.trans he'
      rw [hsp] at hencrypt
      obtain ⟨t, rfl, henciphers⟩ := (x.encrypt_eq_ok_iff_enciphers ..).1 hencrypt
      rw [ha]
      exact ⟨recipient, t, (p.encryption_eq_some default _ _ descriptor hsp _ _).1 hrecipient,
        henciphers, fun ha c hc y hy random' id' => henciphers.decrypt y hy random' id' c hc ha⟩
    · cases he.symm.trans hplain
  · intro hclear
    rw [hpayload] at hclear ⊢
    obtain ⟨-, -, e, -, -, he, -⟩ | ⟨-, hsigns, hplain⟩ := hpacked
    · exact absurd ⟨e, congrArg some he⟩ hclear
    · exact ⟨congrArg some hplain, hsigns.bears suite p.signingKey _ _ rfl⟩

/-! ## Main result -/

/-- **No downgrade.** What metadata and the key ask for is what a delivery has, and a call that
cannot give it fails. -/
theorem produce_protected (profile : AssertingProfile) (r : Resolver)
    (key : Option PrivateCredential) (suite : Suite) (x : Encrypter) (p : AssertingParty)
    (h : of profile r key (.standardWith suite x) = .ok p) :
    ∃ document entity descriptor, r.document = .ok document ∧
      document.entity? profile.serviceProvider = some entity ∧
      entity.role? .serviceProvider profile.protocol = some descriptor ∧
      ∀ q now random log,
        (∀ d, (p.produce q now random log).1 = .ok d →
          Protected profile key suite x r.defaultTransport descriptor q now random d) ∧
        ∀ endpoint window f,
          descriptor.endpoints.find? (·.binding = profile.binding) = some endpoint →
          q.window (p.setting endpoint.location now) = .ok window →
          p.ProtectionFails suite x r.defaultTransport descriptor q now random endpoint.location
            (q.stated (p.setting endpoint.location now) random window) f →
          (p.produce q now random log).1 = .error f := by
  obtain ⟨hrequired, document, entity, descriptor, hdocument, hentity, hdescriptor, hsp⟩ :=
    provided_of profile r key _ p h
  obtain ⟨rfl, rfl, hcapabilities, -⟩ := of_eq_ok _ _ _ _ _ h
  refine ⟨document, entity, descriptor, hdocument, hentity, hdescriptor, ?_⟩
  intro q now random log
  refine ⟨fun d hd => ?_, fun endpoint window f hendpoint hwindow hfails => ?_⟩
  · exact protected_of_answers p suite x r.defaultTransport descriptor hsp hrequired q now random d
      (p.respond_eq_ok suite x hcapabilities random q now d hd)
  · exact p.respond_of_protectionFails suite x hcapabilities r.defaultTransport descriptor hsp q now
      random endpoint window f hendpoint hwindow hfails

/-- A key that is listed with a way to wrap session keys that is refused. -/
def sampleRefused : KeyDescriptor where
  use := .unspecified
  key := PrivateCredential.sampleHolder.publicHalf
  encryptionMethods := [KeyTransport.rsa15Uri]

/-- Metadata of a service provider with this key. -/
def sampleRefusing : Resolver :=
  { snapshot := some
      { loadedAt := ⟨0⟩
        document := { entities := [
          { entityId := "idp", roles := [{ role := .identityProvider, protocols := [.saml20] }] },
          { entityId := "sp"
            roles := [{ role := .serviceProvider, protocols := [.saml20], keys := [sampleRefused]
                        endpoints := [{ binding := .httpPost, location := "https://sp/acs" }] }] }]
          } } }

/-- An assertion that is encrypted in a signed response, which the holder of the key gets back, and
one that is refused because it cannot be encrypted as metadata ask for. -/
theorem produce_protected_sample :
    (∃ d e, ((sampleSender (some .sampleSigner) (some .sampleHolder)).produce sampleRequest
        sampleTime sampleRandom []).1 = .ok d ∧ Bears .standard .sampleSigner d.response ∧
      d.response.payload = some (.encrypted e) ∧
      Encrypter.decrypt {} .standard ⟨fun _ _ => 1⟩ e .sampleHolder (some "sp")
        = .ok d.assertion) ∧
    ∃ p, of { identityProvider := "idp", serviceProvider := "sp", protocol := .saml20 }
        sampleRefusing (some .sampleSigner) (.standardWith .standard {}) = .ok p ∧
      (p.produce sampleRequest sampleTime sampleRandom []).1 = .error
        (.encryption "algorithm not supported: RSA PKCS#1 v1.5 key transport is refused") := by
  have hfamily := PrivateCredential.sound_sampleHolder.family_publicHalf
  constructor
  · obtain ⟨document, entity, descriptor, hdocument, hentity, hdescriptor, h⟩ :=
      produce_protected (sampleSender (some .sampleSigner) (some .sampleHolder)).profile
        (sampleMetadata (some .sampleSigner) (some .sampleHolder)) (some .sampleSigner) .standard
        { placement := .peer } (sampleSender (some .sampleSigner) (some .sampleHolder))
        (of_sampleSender _ _ (by rintro c ⟨⟩; exact hfamily))
    cases hdocument
    cases hentity
    cases hdescriptor
    obtain ⟨d, hd⟩ := exists_sampleDelivery (some .sampleSigner) (some .sampleHolder)
      (by rintro c ⟨⟩; exact PrivateCredential.signs_sampleSigner)
      (by rintro c ⟨⟩; exact PrivateCredential.seals_sampleHolder)
    have hprotected := (h sampleRequest sampleTime sampleRandom []).1 d hd
    have hanswers := (sampleSender (some .sampleSigner) (some .sampleHolder)).respond_eq_ok
      .standard { placement := .peer } rfl sampleRandom sampleRequest sampleTime d hd
    obtain ⟨e, he⟩ := hprotected.encrypted_iff.2
      ⟨rfl, _, List.mem_singleton_self _, hfamily, Or.inl rfl⟩
    obtain ⟨recipient, t, ⟨-, k, hk, rfl, -⟩, hencrypted⟩ := hprotected.encrypted e he
    cases List.mem_singleton.1 (List.mem_of_find?_eq_some hk)
    exact ⟨d, e, hd, hprotected.signed _ rfl, he, hencrypted.decrypts
      (hanswers.representable_assertion.2 (representable_sampleRequest _ _ _)) _
      PrivateCredential.opens_sampleHolder {} rfl _ _⟩
  · refine ⟨_, rfl, ?_⟩
    obtain ⟨document, entity, descriptor, hdocument, hentity, hdescriptor, h⟩ :=
      produce_protected { identityProvider := "idp", serviceProvider := "sp", protocol := .saml20 }
        sampleRefusing (some .sampleSigner) .standard {} _ rfl
    cases hdocument
    cases hentity
    cases hdescriptor
    have hfind : [sampleRefused].find? (fun k => decide k.Encrypts) = some sampleRefused :=
      List.find?_cons_of_pos (decide_eq_true ⟨hfamily, Or.inr rfl⟩)
    exact (h sampleRequest sampleTime sampleRandom []).2 _ _ _ rfl rfl
      (.encryption sampleRefused.key KeyTransport.rsa15Uri ⟨rfl, _, hfind, rfl, rfl⟩
        (.transport (.unsupportedAlgorithm "RSA PKCS#1 v1.5 key transport is refused") rfl))

end AssertingParty

end Federation.Exchange
