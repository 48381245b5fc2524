import Federation.Proofs.Exchange.Production
import Federation.Proofs.Saml.Placement
import Federation.Proofs.Saml.Sending

/-!
# What a delivery reads back as

An asserting party never looks at whether the messages that it writes can be read. The text of a
delivery reads back as the response exactly if the time of the call, and what the request asks for,
can be written faithfully.

    (p.produce q now random log).1 = ok d  →
      (decode d.xml = ok d.response  ↔
        now.Representable ∧ (p.encryption = none → q.Representable (p.setting d.destination now)))

An encrypted assertion does not show in the text of the response whether it can be read, so
`decode_produce_iff` is also about the assertion alone. Nothing of this makes a difference for what
is refused (`respond_isOk_iff`).
-/

namespace Federation.Exchange

open Federation.Saml Federation.Time Federation.Metadata
open Federation.Crypto (Suite Random KeyTransport)

/-! ## Requests -/

/-- The assertion that a request asks for reads back as it is. -/
structure Request.Representable (q : Request) (s : Setting) : Prop where
  issued : s.now.Representable
  window : ∀ window, q.window s = .ok window → window.EachInstant Instant.Representable
  context : s.protocol = .saml11 → q.authnContextClass ≠ some unspecifiedMethod11

theorem Request.representable_stated (q : Request) (s : Setting) (random : Random)
    (window : Validity) (signature : Option SignatureRecord) (hwindow : q.window s = .ok window) :
    Assertion.Representable { q.stated s random window with signature } ↔ q.Representable s := by
  constructor
  · rintro ⟨⟨hissued, hvalidity⟩, hcontext⟩
    refine ⟨hissued, fun w hw => ?_, hcontext⟩
    rw [hwindow] at hw
    cases hw
    exact hvalidity window rfl
  · rintro ⟨hissued, hvalidity, hcontext⟩
    refine ⟨⟨hissued, fun w hw => ?_⟩, hcontext⟩
    cases hw
    exact hvalidity window hwindow

namespace AssertingParty

/-! ## Answers -/

section
variable {p : AssertingParty} {suite : Suite} {x : Encrypter} {random : Random}

theorem Packed.representable {stated a : Assertion} {payload : Payload}
    (h : p.Packed suite x random stated payload a) (hprotocol : a.protocol = p.profile.protocol) :
    payload.Representable p.profile.protocol ↔ (p.encryption = none → a.Representable) := by
  obtain ⟨recipient, transport, e, hrecipient, -, rfl, -⟩ | ⟨hnone, -, rfl⟩ := h
  · rw [hrecipient]
    exact iff_of_true (p.protocol_of_encryption _ hrecipient) nofun
  · rw [hnone]
    exact ⟨fun h _ => h.2, fun h => ⟨hprotocol, h rfl⟩⟩

variable {q : Request} {now : Instant} {d : Delivery} (h : p.Answers suite x q now random d)
include h

theorem Answers.representable_assertion :
    d.assertion.Representable ↔ q.Representable (p.setting d.destination now) := by
  obtain ⟨window, payload, hwindow, hpacked, -⟩ := h.stated
  obtain ⟨signature, ha⟩ := hpacked.assertion_eq
  rw [ha]
  exact q.representable_stated _ random window signature hwindow

/-- Of a response that the party makes, only the time and a plain assertion can be unreadable. -/
theorem Answers.representable_response : d.response.Representable ↔
    now.Representable ∧ (p.encryption = none → d.assertion.Representable) := by
  obtain ⟨window, payload, signature, hpacked, hr⟩ := h.response_eq
  have hprotocol : d.assertion.protocol = p.profile.protocol := by
    obtain ⟨_, ha⟩ := hpacked.assertion_eq
    rw [ha]
    rfl
  rw [hr, ← hpacked.representable hprotocol]
  constructor
  · rintro ⟨hissued, -, -, hpayload⟩
    exact ⟨hissued, hpayload payload rfl⟩
  · rintro ⟨hissued, hpayload⟩
    refine ⟨hissued, fun hsaml => ?_, nofun, fun carried hcarried => ?_⟩
    · have hsaml : p.profile.protocol = .saml11 := hsaml
      show (p.unsigned q now random d.destination payload).issuer = none
      unfold unsigned
      rw [hsaml]
    · cases hcarried
      exact hpayload

theorem Answers.decode_xml_iff : Response.decode d.xml = .ok d.response ↔
    now.Representable ∧ (p.encryption = none → d.assertion.Representable) := by
  rw [d.response.decode_encode_eq_self d.xml h.written]
  exact h.representable_response

end

/-! ## What is refused -/

section
variable (p : AssertingParty) (suite : Suite) (x : Encrypter)
  (hsigns : ∀ c, p.signingKey = some c → suite.Signs c)

include hsigns in
theorem exists_signedWith {α : Type} [Signable α] [LawfulSignable α] (target : α) (text : String)
    (h : Signable.canonicalText target = .ok text) :
    ∃ t, SignedWith suite p.signingKey target t := by
  unfold SignedWith
  cases hkey : p.signingKey with
  | some c =>
    obtain ⟨s, hs, -⟩ := exists_sign suite c (hsigns c hkey) target text h
    exact ⟨_, hs⟩
  | none => exact ⟨target, rfl⟩

variable (hseals : ∀ recipient transport, p.encryption = some (recipient, transport) →
  suite.Seals recipient ∧ ∃ t : KeyTransport, transport = t.uri) (random : Random)
include hsigns hseals

theorem exists_packed (stated : Assertion) :
    ∃ payload a, p.Packed suite x random stated payload a := by
  cases hencryption : p.encryption with
  | some recipient =>
    obtain ⟨recipient, transport⟩ := recipient
    obtain ⟨hseals, t, rfl⟩ := hseals recipient transport hencryption
    obtain ⟨e, he⟩ := x.encrypt_of_seals suite random stated recipient
      (some p.serviceProvider.entityId) hseals t
    exact ⟨.encrypted e, stated, Or.inl ⟨recipient, _, e, hencryption, he, rfl, rfl⟩⟩
  | none =>
    obtain ⟨a, ha⟩ := exists_signedWith p suite hsigns stated _ rfl
    exact ⟨.plain a, a, Or.inr ⟨hencryption, ha, rfl⟩⟩

/-- A party whose keys can be used refuses a request only if there is no endpoint or no window;
whether the answer can be read makes no difference. -/
theorem respond_isOk_iff (hp : p.capabilities = .standardWith suite x) (q : Request)
    (now : Instant) :
    (∃ d, p.respond q now random = .ok d) ↔
      ∃ destination, p.serviceProvider.endpoint p.profile.binding = .ok destination ∧
        ∃ window, q.window (p.setting destination now) = .ok window := by
  constructor
  · rintro ⟨d, hd⟩
    have h := p.respond_eq_ok suite x hp random q now d hd
    obtain ⟨window, -, hwindow, -⟩ := h.stated
    exact ⟨d.destination, h.located, window, hwindow⟩
  · rintro ⟨destination, hdestination, window, hwindow⟩
    obtain ⟨payload, a, hpacked⟩ := exists_packed p suite x hsigns hseals random
      (q.stated (p.setting destination now) random window)
    let unsigned := p.unsigned q now random destination payload
    have hwritten : ∃ text, unsigned.encode = .ok text := by
      cases hencode : unsigned.encode with
      | ok text => exact ⟨text, rfl⟩
      | error f =>
        obtain ⟨hsaml11, e, he⟩ := (Response.encode_eq_error _).1 ⟨f, hencode⟩
        obtain ⟨-, -, hsaml20⟩ | hplain := hpacked.payload_eq
        · cases hsaml20.symm.trans hsaml11
        · cases hplain.symm.trans (Option.some.inj he)
    obtain ⟨text, htext⟩ := hwritten
    obtain ⟨canonical, hcanonical⟩ := unsigned.canonicalText_of_encode text htext
    obtain ⟨response, hresponse⟩ := exists_signedWith p suite hsigns unsigned canonical hcanonical
    have hxml : ∃ xml, response.encode = .ok xml := by
      obtain rfl | ⟨s, rfl⟩ := hresponse.eq_or_attach
      · exact ⟨text, htext⟩
      · exact unsigned.encode_attach s text htext
    obtain ⟨xml, hxml⟩ := hxml
    exact ⟨{ response, assertion := a, xml, destination }, p.respond_of_answers suite x hp random q
      now _ ⟨hdestination, ⟨window, payload, hwindow, hpacked, hresponse⟩, hxml⟩⟩

end

/-! ## Main result -/

/-- A party without keys, for a service provider that has an endpoint of the usual binding. -/
def bareSender (protocol : Protocol) : AssertingParty where
  profile :=
    { identityProvider := "idp", serviceProvider := "sp", protocol, requireSigning := false }
  identityProvider :=
    { entityId := "idp", role := .identityProvider, protocol, endpoints := [], signingKeys := []
      encryption := none }
  serviceProvider :=
    { entityId := "sp", role := .serviceProvider, protocol
      endpoints := [{ binding := protocol.defaultBinding, location := "https://sp/acs" }]
      signingKeys := [], encryption := none }
  signingKey := none
  capabilities := .standardWith .standard {}

/-- A window that ends with the last second of the year 9999. -/
def lastingRequest : Request :=
  { subject := "user"
    notBefore := some { second := 253402300798, nano := 0, nano_lt := Instant.earliest.nano_lt }
    lifetime := some (.ofSeconds 1) }

/-- A window that ends a second later. -/
def overlongRequest : Request := { lastingRequest with lifetime := some (.ofSeconds 2) }

/-- The context class that SAML 1.1 writes for none. -/
def unspecifiedRequest : Request :=
  { subject := "user", authnContextClass := some unspecifiedMethod11 }

/-- A delivery reads back as it was sent exactly if what was asked for can be written faithfully. An
encrypted assertion does not count for the response, but for itself. -/
theorem decode_produce_iff (p : AssertingParty) (suite : Suite) (x : Encrypter)
    (hp : p.capabilities = .standardWith suite x) (q : Request) (now : Instant) (random : Random)
    (log : List Audit.Event) (d : Delivery) (hd : (p.produce q now random log).1 = .ok d) :
    (Response.decode d.xml = .ok d.response ↔
      now.Representable ∧ (p.encryption = none → q.Representable (p.setting d.destination now))) ∧
    (Assertion.decode d.assertion.encode = .ok d.assertion ↔
      q.Representable (p.setting d.destination now)) := by
  have h := p.respond_eq_ok suite x hp random q now d hd
  rw [h.decode_xml_iff, h.representable_assertion]
  refine ⟨Iff.rfl, fun hread => ?_, fun hq => (h.representable_assertion.2 hq).decode_encode⟩
  exact h.representable_assertion.1 (d.assertion.representable_of_decode hread)

theorem decode_produce_sample :
    ∃ d, ((bareSender .saml20).produce lastingRequest RelyingParty.sampleTime ⟨fun _ _ => 0⟩ []).1
        = .ok d ∧
      Response.decode d.xml = .ok d.response := by
  refine ⟨_, rfl, ((bareSender .saml20).decode_produce_iff .standard {} rfl lastingRequest
    RelyingParty.sampleTime ⟨fun _ _ => 0⟩ [] _ rfl).1.2 ⟨by decide, fun _ => ⟨?_, ?_, ?_⟩⟩⟩
  · show RelyingParty.sampleTime.Representable
    decide
  · intro window hwindow
    cases hwindow
    decide
  · intro h
    cases h

/-- Two deliveries that are recorded as successes and do not read back: a window that ends in the
year 10000, and a context class that SAML 1.1 takes for none. -/
theorem produce_unreadable :
    (∃ d, (bareSender .saml20).produce overlongRequest RelyingParty.sampleTime ⟨fun _ _ => 0⟩ []
        = (.ok d, [.success .assertionProduced "idp" "SAML2.0" "sp"]) ∧
      Response.decode d.xml ≠ .ok d.response) ∧
    ∃ d, (bareSender .saml11).produce unspecifiedRequest RelyingParty.sampleTime ⟨fun _ _ => 0⟩ []
        = (.ok d, [.success .assertionProduced "idp" "SAML1.1" "sp"]) ∧
      Response.decode d.xml ≠ .ok d.response := by
  constructor
  · refine ⟨_, rfl, fun h => ?_⟩
    have hreadable := (Response.decode_encode_eq_self _ _ rfl).1 h
    exact absurd ((hreadable.payload _ rfl).2.window _ rfl) (by decide)
  · refine ⟨_, rfl, fun h => ?_⟩
    have hreadable := (Response.decode_encode_eq_self _ _ rfl).1 h
    exact (hreadable.payload _ rfl).2.context rfl rfl

end AssertingParty

end Federation.Exchange
