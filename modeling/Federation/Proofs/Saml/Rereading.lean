import Federation.Proofs.Saml.RoundTrip
import Federation.Proofs.Time.Order

/-!
# Messages that were read before

Readers take what writers never write: elements in any layout, repeated or unknown ones, attributes
without a value, statements without a subject. Whatever they skip, merge or fill in, the message
that comes out is told by its text as it is, so reading it once more changes nothing.

    decode s = ok a  →  (decode a.encode = ok a  ↔  a.EachInstant Instant.FourDigit)
    decode s = ok r  →  ∃ text, r.encode = ok text ∧
      (decode text = ok r  ↔  r.EachInstant Instant.FourDigit)

Instants are the one exception. Those of a text count from its own offset to universal time, and
there the ends of the years 0 and 9999 can fall into years that are not written with four digits.

- `Assertion.normal_of_read` and `Response.told_of_read` say that what is read is told as it is.
-/

namespace Federation.Saml

open Federation.Xml Federation.Time

/-! ## Statuses -/

/-- A value that was read has no name of its own left. -/
theorem Status.ofValue_value_ofValue (s : String) (p : Protocol) :
    ofValue ((ofValue s).value p) = ofValue s := by
  rw [ofValue_value]
  intro v hv
  have hother : s = v := by
    unfold ofValue at hv
    split at hv
    · cases hv
    · split at hv
      · cases hv
      · split at hv
        · cases hv
        · exact Status.other.inj hv
  rw [← hother] at hv ⊢
  exact hv

/-! ## Assertions -/

namespace Assertion

theorem normal_of_read20 (e : Element) (a : Assertion) (h : readAssertion20 e = .ok a) :
    a.normal = a :=
  (normal_eq_iff a).2 fun hprotocol => by
    rw [(of_read20 e a h).1] at hprotocol
    cases hprotocol

theorem normal_of_read11 (e : Element) (a : Assertion) (h : readAssertion11 e = .ok a) :
    a.normal = a :=
  (normal_eq_iff a).2 fun _ => (of_read11 e a h).2.1

/-- An assertion that was read is told as it is. -/
theorem normal_of_read (e : Element) (a : Assertion) (h : readAssertion e = .ok a) :
    a.normal = a := by
  unfold readAssertion at h
  split at h
  · exact normal_of_read20 e a h
  · split at h
    · exact normal_of_read11 e a h
    · cases h

end Assertion

/-! ## Responses -/

/-- A reader of the protocol finds the payload again as it is. -/
theorem Payload.found?_plain (a : Assertion) (protocol : Protocol)
    (hprotocol : a.protocol = protocol) (hnormal : a.normal = a) :
    found? protocol (.plain a) = some (.plain a) := by
  rw [found?, if_pos hprotocol, hnormal]

namespace Response

theorem found?_of_readPayload20 (e : Element) (o : Option Payload)
    (h : readPayload20 e = .ok o) : o.bind (Payload.found? .saml20) = o := by
  cases o with
  | none => rfl
  | some p =>
    obtain ⟨_, a, ha, rfl⟩ | ⟨x, rfl⟩ := Payload.of_read20 e _ h p rfl
    · exact Payload.found?_plain a _ (Assertion.of_read20 _ a ha).1
        (Assertion.normal_of_read20 _ a ha)
    · rfl

theorem found?_of_readPayload11 (child : Option Element) (o : Option Payload)
    (h : readOptional (fun a => Payload.plain <$> readAssertion11 a) child = .ok o) :
    o.bind (Payload.found? .saml11) = o := by
  cases o with
  | none => rfl
  | some p =>
    obtain ⟨_, a, ha, rfl⟩ := Payload.of_read11 child _ h p rfl
    exact Payload.found?_plain a _ (Assertion.of_read11 _ a ha).1
      (Assertion.normal_of_read11 _ a ha)

/-- A response that was read is told as it is. -/
theorem told_of_read (e : Element) (r : Response) (h : readResponse e = .ok r) :
    r = { r.normal with
      status := Status.ofValue (r.status.value r.protocol)
      payload := r.payload.bind (Payload.found? r.protocol) } := by
  rw [eq_told_iff]
  unfold readResponse at h
  split at h
  · obtain ⟨hprotocol, ⟨value, hstatus⟩, -, hpayload⟩ := of_read20 e r h
    rw [hprotocol, hstatus, found?_of_readPayload20 e _ hpayload]
    exact ⟨nofun, Status.ofValue_value_ofValue value _, rfl⟩
  · split at h
    · obtain ⟨hprotocol, hissuer, ⟨value, hstatus⟩, -, hpayload⟩ := of_read11 e r h
      rw [hprotocol, hstatus, found?_of_readPayload11 _ _ hpayload]
      exact ⟨fun _ => hissuer, Status.ofValue_value_ofValue value _, rfl⟩
    · cases h

/-- What a reader finds of a payload carries the protocol of the reader. -/
theorem legible_iff (o : Option Payload) (protocol : Protocol)
    (h : o = o.bind (Payload.found? protocol)) :
    (∀ p ∈ o, p.Legible protocol) ↔ ∀ p ∈ o, p.EachInstant Instant.FourDigit := by
  cases o with
  | none => simp
  | some p =>
    cases p with
    | encrypted e => simp [Payload.Legible, Payload.EachInstant]
    | plain a =>
      have hprotocol : a.protocol = protocol := by
        by_cases hprotocol : a.protocol = protocol
        · exact hprotocol
        · simp [Payload.found?, hprotocol] at h
      simp [Payload.Legible, Payload.EachInstant, hprotocol]

/-- A response that was read has a text of its own. -/
theorem exists_encode_of_read (e : Element) (r : Response) (h : readResponse e = .ok r) :
    ∃ text, r.encode = .ok text := by
  cases hencode : r.encode with
  | ok text => exact ⟨text, rfl⟩
  | error f =>
    obtain ⟨hprotocol, x, hx⟩ := r.encode_eq_error.1 ⟨f, hencode⟩
    have hpayload := ((eq_told_iff r).1 (told_of_read e r h)).2.2
    rw [hprotocol, hx] at hpayload
    cases hpayload

end Response

/-! ## Main result -/

/-- **Reading once is enough.** Whatever text a message was read from, it has a text of its own, and
that text reads back as the very same message if its instants can be written. -/
theorem decode_settles :
    (∀ (s : String) (a : Assertion), Assertion.decode s = .ok a →
      (Assertion.decode a.encode = .ok a ↔ a.EachInstant Instant.FourDigit)) ∧
    ∀ (s : String) (r : Response), Response.decode s = .ok r →
      ∃ text, r.encode = .ok text ∧
        (Response.decode text = .ok r ↔ r.EachInstant Instant.FourDigit) := by
  constructor
  · intro s a h
    obtain ⟨e, -, he⟩ := (bind_eq_ok ..).1 h
    rw [Assertion.decode_encode_eq_ok a a (Assertion.leapEndsMinute_of_read e a he),
      Assertion.normal_of_read e a he]
    exact and_iff_left rfl
  · intro s r h
    obtain ⟨e, -, he⟩ := (bind_eq_ok ..).1 h
    obtain ⟨text, htext⟩ := r.exists_encode_of_read e he
    have htold := r.told_of_read e he
    have hlegible := Response.legible_iff _ _ ((Response.eq_told_iff r).1 htold).2.2
    refine ⟨text, htext, ?_⟩
    rw [Response.decode_encode_eq_ok r (r.leapEndsMinute_of_read e he) text htext, hlegible]
    exact ⟨fun ⟨hissued, hpayload, _⟩ => ⟨hissued, hpayload⟩,
      fun h => ⟨h.issued, h.payload, htold⟩⟩

/-- An assertion that no writer writes: of minor version 0, with an unknown element, with the method
that says nothing, and with two attribute statements, of which the second has the subject. -/
def looseAssertion : Node :=
  .group "a:Assertion"
    [("xmlns:a", Ns.assertion11), ("AssertionID", "_a"), ("MinorVersion", "0"),
     ("MajorVersion", "1"), ("IssueInstant", "1970-01-01T02:00:00+02:00")]
    [.leaf "a:Advice" [] " ",
     .empty "a:AuthenticationStatement" [("AuthenticationMethod", unspecifiedMethod11)],
     .group "a:AttributeStatement" [] [.empty "a:Attribute" [("AttributeName", "mail")]],
     .group "a:AttributeStatement" []
      [.empty "a:Subject" [],
       .group "a:Attribute" [("AttributeName", "role")]
        [.leaf "a:AttributeValue" [] "x", .empty "a:AttributeValue" []]]]

/-- It is carried by a response with two statuses, the first under a value without a name. -/
def looseResponse : Node :=
  .group "Response"
    [("xmlns", Ns.protocol11), ("IssueInstant", " 1970-01-01T00:00:00.000Z "), ("ResponseID", "_r"),
     ("MajorVersion", "1")]
    [.group "Status" [] [.empty "StatusCode" [("Value", "urn:foreign")]], looseAssertion,
     .group "Status" [] [.empty "StatusCode" [("Value", "samlp:Success")]]]

/-- What is read of the assertion. -/
def settledAssertion : Assertion where
  id := "_a"
  protocol := .saml11
  issueInstant := .sample 0
  subject := some { identifier := "", confirmationMethod := "" }
  attributes := [("mail", ""), ("role", "x"), ("role", "")]

/-- What is read of the response. -/
def settledResponse : Response where
  id := "_r"
  protocol := .saml11
  issueInstant := .sample 0
  status := .other "urn:foreign"
  payload := some (.plain settledAssertion)

theorem parse_looseResponse :
    Element.parse looseResponse.render = .ok (looseResponse.element []) :=
  parse_render _ rfl

theorem decode_settles_sample :
    Response.decode looseResponse.render = .ok settledResponse ∧
      ∃ text, settledResponse.encode = .ok text ∧ Response.decode text = .ok settledResponse := by
  have hread : (readResponse (looseResponse.element [])).toOption = some settledResponse := by
    decide +kernel
  have hdecode : Response.decode looseResponse.render = .ok settledResponse := by
    unfold Response.decode
    rw [parse_looseResponse]
    show readResponse (looseResponse.element []) = _
    cases hresult : readResponse (looseResponse.element []) with
    | error f =>
      rw [hresult] at hread
      cases hread
    | ok r =>
      rw [hresult] at hread
      rw [Option.some.inj hread]
  obtain ⟨text, htext, hagain⟩ := decode_settles.2 _ _ hdecode
  refine ⟨hdecode, text, htext, hagain.2 ⟨by decide, fun p hp => ?_⟩⟩
  cases hp
  exact ⟨by decide, fun v hv => nomatch hv⟩

end Federation.Saml
