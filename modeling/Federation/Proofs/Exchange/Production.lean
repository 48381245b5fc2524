import Federation.Exchange.AssertingParty
import Federation.Proofs.Exchange.Acceptance

/-!
# What an asserting party answers

A response of an asserting party with the standard capabilities carries the assertion that the
request asks for, encrypted or signed or neither (`Packed`), and is signed itself if there is a key.

    p.respond q now random = ok d  →  p.Answers suite x q now random d
-/

namespace Federation.Exchange

open Federation.Saml Federation.Time Federation.Metadata
open Federation.Crypto (Suite Random PublicCredential PrivateCredential)

/-- The assertion that a request asks for, with its window. -/
def Request.stated (q : Request) (s : Setting) (random : Random) (window : Validity) :
    Assertion where
  id := random.xmlId .assertionId
  protocol := s.protocol
  issueInstant := s.now
  issuer := some s.issuer
  subject := some { Subject.bearer q.subject s.protocol with
    format := q.format, destination := some s.destination }
  validity := some window
  authnContextClass := q.authnContextClass
  attributes := q.attributes

theorem Request.build_eq_ok (q : Request) (s : Setting) (random : Random) (a : Assertion) :
    q.build s random = .ok a ↔
      ∃ window, q.window s = .ok window ∧ a = q.stated s random window := by
  unfold build
  rw [bind_eq_ok]
  constructor
  · rintro ⟨window, hwindow, h⟩
    exact ⟨window, hwindow, (Except.ok.inj h).symm⟩
  · rintro ⟨window, hwindow, rfl⟩
    exact ⟨window, hwindow, rfl⟩

namespace AssertingParty

/-- An object is signed with the key that there is, if there is one. -/
def SignedWith {α : Type} [Signable α] (suite : Suite) (key : Option PrivateCredential)
    (target t : α) : Prop :=
  match key with
  | some c => sign suite target c = .ok t
  | none => t = target

theorem SignedWith.eq_or_attach {α : Type} [Signable α] (suite : Suite)
    (key : Option PrivateCredential) (target t : α) (h : SignedWith suite key target t) :
    t = target ∨ ∃ s, t = Signable.attach target s := by
  unfold SignedWith at h
  cases key with
  | none => exact Or.inl h
  | some c =>
    obtain ⟨text, value, -, -, ht⟩ := (sign_eq_ok ..).1 h
    exact Or.inr ⟨_, ht⟩

/-- A payload that carries an assertion: encrypted without a signature of its own, or in clear. -/
def Packed (p : AssertingParty) (suite : Suite) (x : Encrypter) (random : Random)
    (stated : Assertion) (payload : Payload) (a : Assertion) : Prop :=
  (∃ recipient transport e, p.encryption = some (recipient, transport) ∧
    x.encrypt suite random stated recipient transport p.serviceProvider.entityId = .ok e ∧
    payload = .encrypted e ∧ a = stated) ∨
  (p.encryption = none ∧ SignedWith suite p.signingKey stated a ∧ payload = .plain a)

/-- Only assertions of SAML 2.0 are encrypted. -/
theorem protocol_of_encryption (p : AssertingParty) (k : PublicCredential × String)
    (h : p.encryption = some k) : p.profile.protocol = .saml20 := by
  unfold encryption at h
  cases hprotocol : p.profile.protocol with
  | saml20 => rfl
  | saml11 =>
    rw [hprotocol] at h
    cases h

section
variable (p : AssertingParty) (suite : Suite) (x : Encrypter) (random : Random)
  (stated a : Assertion) (payload : Payload) (h : p.Packed suite x random stated payload a)
include h

theorem Packed.payload_eq :
    (∃ e, payload = .encrypted e ∧ p.profile.protocol = .saml20) ∨ payload = .plain a := by
  obtain ⟨_, _, e, hrecipient, _, he, _⟩ | ⟨_, _, ha⟩ := h
  · exact Or.inl ⟨e, he, p.protocol_of_encryption _ hrecipient⟩
  · exact Or.inr ha

theorem Packed.assertion_eq : ∃ signature, a = { stated with signature } := by
  obtain ⟨_, _, _, _, _, _, ha⟩ | ⟨_, hsigned, _⟩ := h
  · exact ⟨_, ha⟩
  · obtain ha | ⟨s, ha⟩ := hsigned.eq_or_attach
    · exact ⟨_, ha⟩
    · exact ⟨_, ha⟩

end

/-- The response that carries a payload, before it is signed. -/
def unsigned (p : AssertingParty) (q : Request) (now : Instant) (random : Random)
    (destination : String) (payload : Payload) : Response where
  id := random.xmlId .responseId
  protocol := p.profile.protocol
  issueInstant := now
  issuer := match p.profile.protocol with
    | .saml20 => some p.identityProvider.entityId
    | .saml11 => none
  destination := some destination
  inResponseTo := q.inResponseTo
  payload := some payload

/-- What a delivery is made of. -/
structure Answers (p : AssertingParty) (suite : Suite) (x : Encrypter) (q : Request)
    (now : Instant) (random : Random) (d : Delivery) : Prop where
  located : p.serviceProvider.endpoint p.profile.binding = .ok d.destination
  stated : ∃ window payload,
    q.window (p.setting d.destination now) = .ok window ∧
    p.Packed suite x random (q.stated (p.setting d.destination now) random window) payload
      d.assertion ∧
    SignedWith suite p.signingKey (p.unsigned q now random d.destination payload) d.response
  written : d.response.encode = .ok d.xml

theorem of_eq_ok (profile : AssertingProfile) (r : Resolver) (key : Option PrivateCredential)
    (capabilities : Capabilities) (p : AssertingParty)
    (h : of profile r key capabilities = .ok p) :
    p.profile = profile ∧ p.signingKey = key ∧ p.capabilities = capabilities ∧
      r.trusted ⟨profile.identityProvider, .identityProvider, profile.protocol⟩
        = .ok p.identityProvider := by
  unfold of at h
  by_cases hkey : profile.requireSigning ∧ key.isNone
  · rw [if_pos hkey] at h
    cases h
  rw [if_neg hkey] at h
  obtain ⟨idp, hidp, h⟩ := (bind_eq_ok _ _ _).1 h
  obtain ⟨sp, -, h⟩ := (bind_eq_ok _ _ _).1 h
  cases h
  exact ⟨rfl, rfl, rfl, hidp⟩

section
variable (p : AssertingParty) (suite : Suite) (x : Encrypter)
  (hp : p.capabilities = .standardWith suite x) (random : Random)
include hp

theorem payload_eq_ok (stated a : Assertion) (payload : Payload)
    (h : p.payload stated random = .ok (payload, a)) :
    p.Packed suite x random stated payload a := by
  unfold AssertingParty.payload at h
  rw [hp] at h
  cases hrecipient : p.encryption with
  | some recipient =>
    simp only [hrecipient] at h
    obtain ⟨e, he, h⟩ := (bind_eq_ok _ _ _).1 h
    cases h
    exact Or.inl ⟨_, _, e, hrecipient, he, rfl, rfl⟩
  | none =>
    refine Or.inr ⟨hrecipient, ?_⟩
    unfold SignedWith
    cases hkey : p.signingKey with
    | some key =>
      simp only [hrecipient, hkey] at h
      obtain ⟨b, hb, h⟩ := (bind_eq_ok _ _ _).1 h
      cases h
      exact ⟨hb, rfl⟩
    | none =>
      simp only [hrecipient, hkey] at h
      cases h
      exact ⟨rfl, rfl⟩

theorem payload_of_packed (stated a : Assertion) (payload : Payload)
    (h : p.Packed suite x random stated payload a) :
    p.payload stated random = .ok (payload, a) := by
  unfold AssertingParty.payload
  rw [hp]
  obtain ⟨recipient, transport, e, hrecipient, he, rfl, rfl⟩ | ⟨hplain, hsigned, rfl⟩ := h
  · rw [hrecipient]
    exact (bind_eq_ok _ _ _).2 ⟨e, he, rfl⟩
  · rw [hplain]
    cases hkey : p.signingKey with
    | some c =>
      rw [hkey] at hsigned
      exact (bind_eq_ok _ _ _).2 ⟨a, hsigned, rfl⟩
    | none =>
      rw [hkey] at hsigned
      rw [hsigned]
      rfl

theorem respond_eq_ok (q : Request) (now : Instant) (d : Delivery)
    (h : p.respond q now random = .ok d) : p.Answers suite x q now random d := by
  unfold respond at h
  obtain ⟨destination, hdestination, h⟩ := (bind_eq_ok _ _ _).1 h
  obtain ⟨built, hbuilt, h⟩ := (bind_eq_ok _ _ _).1 h
  obtain ⟨⟨payload, a⟩, hpayload, h⟩ := (bind_eq_ok _ _ _).1 h
  rw [hp] at hbuilt
  obtain ⟨window, hwindow, hstated⟩ := (Request.build_eq_ok ..).1 hbuilt
  have hpacked := p.payload_eq_ok suite x hp random _ _ _ hpayload
  rw [hstated] at hpacked
  cases hkey : p.signingKey with
  | some key =>
    simp only [hkey] at h
    obtain ⟨response, hresponse, h⟩ := (bind_eq_ok _ _ _).1 h
    obtain ⟨xml, hxml, h⟩ := (bind_eq_ok _ _ _).1 h
    cases h
    rw [hp] at hresponse
    refine ⟨hdestination, ⟨window, payload, hwindow, hpacked, ?_⟩, hxml⟩
    rw [hkey]
    exact hresponse
  | none =>
    simp only [hkey, pure_bind] at h
    obtain ⟨xml, hxml, h⟩ := (bind_eq_ok _ _ _).1 h
    cases h
    refine ⟨hdestination, ⟨window, payload, hwindow, hpacked, ?_⟩, hxml⟩
    rw [hkey]
    rfl

/-- Whatever fits the parts of an answer is the answer. -/
theorem respond_of_answers (q : Request) (now : Instant) (d : Delivery)
    (h : p.Answers suite x q now random d) : p.respond q now random = .ok d := by
  obtain ⟨window, payload, hwindow, hpacked, hsigned⟩ := h.stated
  have hbuilt : p.capabilities.builds.build q (p.setting d.destination now) random
      = .ok (q.stated (p.setting d.destination now) random window) := by
    rw [hp]
    exact (Request.build_eq_ok ..).2 ⟨window, hwindow, rfl⟩
  unfold respond
  simp only [h.located, hbuilt, p.payload_of_packed suite x hp random _ _ _ hpacked, ok_bind]
  cases hkey : p.signingKey with
  | some c =>
    rw [hkey] at hsigned
    rw [hp]
    exact (bind_eq_ok _ _ _).2 ⟨_, hsigned, (bind_eq_ok _ _ _).2 ⟨_, h.written, rfl⟩⟩
  | none =>
    rw [hkey] at hsigned
    exact (bind_eq_ok _ _ _).2
      ⟨_, congrArg Except.ok hsigned.symm, (bind_eq_ok _ _ _).2 ⟨_, h.written, rfl⟩⟩

end

section
variable (p : AssertingParty) (suite : Suite) (x : Encrypter) (q : Request) (now : Instant)
  (random : Random) (d : Delivery) (h : p.Answers suite x q now random d)
include h

/-- The assertion is the one asked for, up to its signature. -/
theorem Answers.assertion_eq : ∃ window signature,
    d.assertion = { q.stated (p.setting d.destination now) random window with signature } := by
  obtain ⟨window, payload, -, hpacked, -⟩ := h.stated
  exact ⟨window, hpacked.assertion_eq⟩

/-- The response carries the assertion, up to its signature. -/
theorem Answers.response_eq : ∃ window payload signature,
    p.Packed suite x random (q.stated (p.setting d.destination now) random window) payload
      d.assertion ∧
    d.response = { p.unsigned q now random d.destination payload with signature } := by
  obtain ⟨window, payload, -, hpacked, hsigned⟩ := h.stated
  obtain hr | ⟨s, hr⟩ := hsigned.eq_or_attach
  · exact ⟨window, payload, _, hpacked, hr⟩
  · exact ⟨window, payload, _, hpacked, hr⟩

theorem Answers.effectiveIssuer_eq :
    d.response.effectiveIssuer = some p.identityProvider.entityId := by
  obtain ⟨window, signature, ha⟩ := h.assertion_eq
  obtain ⟨_, payload, signature', hpacked, hr⟩ := h.response_eq
  rw [hr]
  unfold Response.effectiveIssuer unsigned
  obtain ⟨e, -, hprotocol⟩ | hplain := hpacked.payload_eq
  · rw [hprotocol]
  · cases p.profile.protocol with
    | saml20 => rfl
    | saml11 =>
      rw [hplain, ha]
      rfl

end

end AssertingParty

end Federation.Exchange
