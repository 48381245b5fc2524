import Federation.Proofs.Saml.Readers

/-!
# Messages that read back as they are

The text of a message reads back as the message itself exactly if the message is representable: its
instants lie in years 0 to 9999, leap seconds end minutes, and nothing else in it is written like
something else.

    decode a.encode = ok a  ↔  a.Representable
    r.encode = ok text  →  (decode text = ok r  ↔  r.Representable)

An assertion has one thing that is written like another, the context class that SAML 1.1 writes for
none. A response can also have a status under a name of its own, an issuer that SAML 1.1 does not
write, and a payload of the other protocol. Strings, bytes and the number and order of parts are
free.
-/

namespace Federation.Saml

open Federation.Xml Federation.Time

/-! ## Statuses -/

/-- Every status but one in disguise reads back from its written form. -/
theorem Status.ofValue_value (s : Status) (p : Protocol) :
    ofValue (s.value p) = s ↔ ∀ v, s = .other v → ofValue v = .other v := by
  cases s with
  | success => cases p <;> exact iff_of_true rfl fun v h => nomatch h
  | requester => cases p <;> exact iff_of_true rfl fun v h => nomatch h
  | responder => cases p <;> exact iff_of_true rfl fun v h => nomatch h
  | other v => simp [value]

/-! ## Payloads -/

namespace Payload

/-- A response of the protocol can carry the payload, and it reads back as it is. -/
def Representable (protocol : Protocol) : Payload → Prop
  | .plain a => a.protocol = protocol ∧ a.Representable
  | .encrypted _ => protocol = .saml20

theorem representable_iff (p : Payload) (protocol : Protocol)
    (hleap : p.EachInstant Instant.LeapEndsMinute) :
    p.Representable protocol ↔ p.Legible protocol ∧ p.found? protocol = some p := by
  cases p with
  | plain a =>
    have hleap : a.EachInstant Instant.LeapEndsMinute := hleap
    by_cases h : a.protocol = protocol
    · simp [Representable, Legible, found?, h, a.representable_iff,
        a.eachInstant_representable_iff, hleap, eq_comm]
    · simp [Representable, found?, h]
  | encrypted e => simp [Representable, Legible, found?]

theorem representable_iff_of_option (o : Option Payload) (protocol : Protocol)
    (hleap : ∀ p ∈ o, p.EachInstant Instant.LeapEndsMinute) :
    (∀ p ∈ o, p.Representable protocol) ↔
      (∀ p ∈ o, p.Legible protocol) ∧ o = o.bind (found? protocol) := by
  cases o with
  | none => simp
  | some p => simp [representable_iff p protocol (hleap p rfl), eq_comm]

theorem Representable.leapEndsMinute {p : Payload} {protocol : Protocol}
    (h : p.Representable protocol) : p.EachInstant Instant.LeapEndsMinute := by
  cases p with
  | plain a => exact (a.eachInstant_representable_iff.1 h.2.toEachInstant).2
  | encrypted e => trivial

end Payload

/-! ## Responses -/

namespace Response

/-- The response reads back as it is. -/
structure Representable (r : Response) : Prop where
  issued : r.issueInstant.Representable
  /-- SAML 1.1 has no place for an issuer. -/
  issuer : r.protocol = .saml11 → r.issuer = none
  /-- Another value is none of those that have a name. -/
  status : ∀ v, r.status = .other v → Status.ofValue v = .other v
  payload : ∀ p ∈ r.payload, p.Representable r.protocol

theorem encode_eq_error (r : Response) : (∃ f, r.encode = .error f) ↔
    r.protocol = .saml11 ∧ ∃ e, r.payload = some (.encrypted e) := by
  unfold encode node
  constructor
  · rintro ⟨f, h⟩
    split at h
    · cases h
    · next e hprotocol hpayload => exact ⟨hprotocol, e, hpayload⟩
    · cases h
  · rintro ⟨hprotocol, e, hpayload⟩
    rw [hprotocol, hpayload]
    exact ⟨_, rfl⟩

/-- A response that its text tells as it is. -/
theorem eq_told_iff (r : Response) :
    r = { r.normal with
      status := Status.ofValue (r.status.value r.protocol)
      payload := r.payload.bind (Payload.found? r.protocol) } ↔
      (r.protocol = .saml11 → r.issuer = none) ∧
        Status.ofValue (r.status.value r.protocol) = r.status ∧
        r.payload = r.payload.bind (Payload.found? r.protocol) := by
  constructor
  · intro h
    have hissuer := congrArg (·.issuer) h
    refine ⟨fun hprotocol => ?_, (congrArg (·.status) h).symm, congrArg (·.payload) h⟩
    simpa only [normal, hprotocol] using hissuer
  · rintro ⟨hissuer, hstatus, hpayload⟩
    have hnormal : r.normal.issuer = r.issuer := by
      unfold normal
      cases hprotocol : r.protocol with
      | saml20 => rfl
      | saml11 => exact (hissuer hprotocol).symm
    rw [hstatus, ← hpayload]
    unfold normal at hnormal ⊢
    simp only at hnormal ⊢
    rw [hnormal]

theorem Representable.leapEndsMinute {r : Response} (h : r.Representable) :
    r.EachInstant Instant.LeapEndsMinute :=
  ⟨h.issued.2, fun p hp => (h.payload p hp).leapEndsMinute⟩

theorem leapEndsMinute_of_decode (text : String) (r : Response) (h : decode text = .ok r) :
    r.EachInstant Instant.LeapEndsMinute := by
  obtain ⟨e, -, he⟩ := (bind_eq_ok ..).1 h
  exact leapEndsMinute_of_read e r he

theorem decode_encode_eq_self (r : Response) (text : String) (htext : r.encode = .ok text) :
    decode text = .ok r ↔ r.Representable := by
  by_cases hleap : r.EachInstant Instant.LeapEndsMinute
  · have hpayload := Payload.representable_iff_of_option r.payload r.protocol hleap.payload
    rw [decode_encode_eq_ok r hleap text htext, eq_told_iff, Status.ofValue_value]
    constructor
    · rintro ⟨hissued, hlegible, hissuer, hstatus, hfound⟩
      exact ⟨⟨hissued, hleap.issued⟩, hissuer, hstatus, hpayload.2 ⟨hlegible, hfound⟩⟩
    · rintro ⟨hissued, hissuer, hstatus, h⟩
      obtain ⟨hlegible, hfound⟩ := hpayload.1 h
      exact ⟨hissued.1, hlegible, hissuer, hstatus, hfound⟩
  · -- nothing that is read has such a leap second
    exact iff_of_false (fun h => hleap (leapEndsMinute_of_decode text r h))
      fun h => hleap h.leapEndsMinute

end Response

/-! ## Main results -/

theorem Assertion.representable_of_decode (a : Assertion) (h : decode a.encode = .ok a) :
    a.Representable := by
  obtain ⟨e, -, he⟩ := (bind_eq_ok ..).1 h
  have hleap := leapEndsMinute_of_read e a he
  obtain ⟨hyear, hnormal⟩ := (decode_encode_eq_ok a a hleap).1 h
  exact a.representable_iff.2 ⟨a.eachInstant_representable_iff.2 ⟨hyear, hleap⟩, hnormal⟩

/-- An assertion reads back from its text exactly if it is representable. -/
theorem Assertion.decode_encode_iff (a : Assertion) :
    decode a.encode = .ok a ↔ a.Representable :=
  ⟨a.representable_of_decode, Representable.decode_encode⟩

/-- Two wrapped keys, one with everything that is optional about it. -/
def sampleEncrypted : EncryptedAssertion where
  data := { algorithm := "aes", keyInfo := some (.retrievalMethod "#k"), cipherValue := [0, 255] }
  keys :=
    [{ id := some "k", recipient := some "", algorithm := "rsa", keyName := some " "
       carriedKeyName := some "<&>", cipherValue := [] },
     { algorithm := "rsa", cipherValue := [1] }]

/-- A signed response in the last second of the year 9999, with a status without a name. -/
def sampleRefusal : Response where
  id := "_r"
  protocol := .saml20
  issueInstant := { second := 253402300799, nano := 1500000000 }
  issuer := some " "
  destination := some ""
  status := .other "urn:refused"
  payload := some (.encrypted sampleEncrypted)
  signature := some
    { algorithm := "rsa", canonicalization := "c14n", referenceUri := "#_r"
      digestAlgorithm := "sha", digestValue := [1, 2], signatureValue := [3]
      keyInfo := some (.publicKey [4]) }

/-- Responses have a text but for encrypted assertions in SAML 1.1, and a response reads back from
its text exactly if it is representable. -/
theorem Response.decode_of_encode_iff (r : Response) :
    ((∃ f, r.encode = .error f) ↔ r.protocol = .saml11 ∧ ∃ e, r.payload = some (.encrypted e)) ∧
      ∀ text, r.encode = .ok text → (decode text = .ok r ↔ r.Representable) :=
  ⟨r.encode_eq_error, r.decode_encode_eq_self⟩

theorem Response.decode_of_encode_sample :
    ∃ text, sampleRefusal.encode = .ok text ∧ decode text = .ok sampleRefusal := by
  refine ⟨_, rfl, (sampleRefusal.decode_of_encode_iff.2 _ rfl).2 ⟨?_, ?_, ?_, ?_⟩⟩
  · show Instant.Representable { second := 253402300799, nano := 1500000000 }
    decide
  · intro h
    cases h
  · intro v hv
    cases hv
    rfl
  · intro p hp
    cases hp
    rfl

end Federation.Saml
