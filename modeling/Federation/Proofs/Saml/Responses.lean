import Federation.Proofs.Saml.Assertions

/-!
# Reading back responses

A response reads back like the assertions in it, and its text fixes it the same way. The text has
the written value of a status only, SAML 1.1 writes no issuer of the response, and a reader finds
payloads of its own protocol only.

    readResponse (m.element scopes) = ok q  ↔  r.issueInstant.FourDigit ∧ the payload is legible ∧
      q = { r.normal with
        status := ofValue (r.status.value p), payload := r.payload.bind (found? p) }
    m.element scopes = n.element scopes  →  r.normal = r'.normal

where `m` and `n` are the nodes of `r` and `r'`, `p` is the protocol of `r`, and leap seconds end
minutes. The element of a response is never the one of an assertion.
-/

namespace Federation.Saml

open Federation.Xml Federation.Time
open Element (Scope)

variable (room : Nat) (scopes : List Scope)

/-! ## Payloads -/

namespace Payload

/-- The payload as its text tells it. -/
def normal : Payload → Payload
  | .plain a => .plain a.normal
  | .encrypted e => .encrypted e

/-- What a reader of responses of the protocol finds. Assertions of the other one are passed over,
and so are encrypted ones in SAML 1.1. -/
def found? (protocol : Protocol) : Payload → Option Payload
  | .plain a => if a.protocol = protocol then some (.plain a.normal) else none
  | .encrypted e => if protocol = .saml20 then some (.encrypted e) else none

/-- Every instant in the payload has the property. Those in an encrypted assertion do not show. -/
def EachInstant (P : Instant → Prop) : Payload → Prop
  | .plain a => a.EachInstant P
  | .encrypted _ => True

/-- What is found can be read. -/
def Legible (protocol : Protocol) : Payload → Prop
  | .plain a => a.protocol = protocol → a.EachInstant Instant.FourDigit
  | .encrypted _ => True

/-- The element has the name of a payload. -/
def named (e : Element) : Bool := e.name == "Assertion" || e.name == "EncryptedAssertion"

theorem name_plain (a : Assertion) (signature : Option SignatureRecord) :
    ((a.node signature).element scopes).name = "Assertion" := by
  unfold Assertion.node
  cases a.protocol <;> rfl

theorem named_node (p : Payload) : named (p.node.element scopes) = true := by
  cases p with
  | plain a =>
    show named ((a.node a.signature).element scopes) = true
    rw [named, name_plain]
    rfl
  | encrypted e => rfl

theorem isNamed_ne (ns : String) (e : Element) (h : named e = false) :
    e.isNamed ns "Assertion" = false ∧ e.isNamed ns "EncryptedAssertion" = false := by
  rw [named, Bool.or_eq_false_iff] at h
  rw [Element.isNamed, Element.isNamed, h.1, h.2]
  exact ⟨rfl, rfl⟩

theorem name_beq_of_named (e : Element) (key : String) (h : named e = true)
    (hkey : (key == "Assertion" || key == "EncryptedAssertion") = false) :
    (e.name == key) = false := by
  rw [beq_eq_false_iff_ne]
  rintro rfl
  rw [named, hkey] at h
  cases h

/-- A search for anything else passes the payload. -/
theorem find?_ne (o : Option Payload) (p : Element → Bool)
    (hp : ∀ e, named e = true → p e = false) :
    (Node.elements scopes (optionalNode Payload.node o)).find? p = none :=
  find?_optionalNode_ne _ _ _ _ fun q => hp _ (q.named_node scopes)

theorem find?_plain (a : Assertion) (p : Element → Bool) :
    (Node.elements scopes (optionalNode node (some (.plain a)))).find? p
      = if p ((a.node a.signature).element scopes) then
          some ((a.node a.signature).element scopes)
        else none := List.find?_singleton ..

theorem isNamed_plain_ne (a : Assertion) (signature : Option SignatureRecord) (ns : String) :
    ((a.node signature).element scopes).isNamed ns "EncryptedAssertion" = false := by
  rw [Element.isNamed, name_plain]
  rfl

theorem node_inj (p q : Payload) (hp : p.EachInstant Instant.LeapEndsMinute)
    (hq : q.EachInstant Instant.LeapEndsMinute)
    (h : p.node.element scopes = q.node.element scopes) : p.normal = q.normal := by
  have hname (a : Assertion) (e : EncryptedAssertion) :
      (a.node a.signature).element scopes ≠ e.node.element scopes := by
    intro h
    have hne : ((a.node a.signature).element scopes).name = "EncryptedAssertion" :=
      congrArg (·.name) h
    rw [name_plain] at hne
    revert hne
    decide
  cases p with
  | plain a =>
    cases q with
    | plain b => exact congrArg plain (a.node_inj scopes a.signature hp b hq b.signature h)
    | encrypted e => exact absurd h (hname a e)
  | encrypted e =>
    cases q with
    | plain a => exact absurd h.symm (hname a e)
    | encrypted e' =>
      have he := e.read_node scopes
      rw [show e.node.element scopes = e'.node.element scopes from h, e'.read_node] at he
      rw [Except.ok.inj he]

theorem normal_eq_of_elements (o o' : Option Payload)
    (ho : ∀ p ∈ o, p.EachInstant Instant.LeapEndsMinute)
    (ho' : ∀ p ∈ o', p.EachInstant Instant.LeapEndsMinute)
    (h : (Node.elements scopes (optionalNode node o)).find? named
      = (Node.elements scopes (optionalNode node o')).find? named) :
    o.map normal = o'.map normal := by
  rw [find?_optionalNode _ _ _ _ fun p => p.named_node scopes,
    find?_optionalNode _ _ _ _ fun p => p.named_node scopes] at h
  cases o <;> cases o'
  · rfl
  · cases h
  · cases h
  · exact congrArg some (node_inj scopes _ _ (ho _ rfl) (ho' _ rfl) (Option.some.inj h))

theorem readable_node (p : Payload) : p.node.readable (room + 6) scopes = true := by
  cases p with
  | plain a => exact a.readable_node room scopes a.signature
  | encrypted e => exact e.readable_node room scopes

end Payload

namespace Response

/-- The response as its text tells it: with the written value of its status, and in SAML 1.1 without
an issuer. -/
def normal (r : Response) : Response :=
  { r with
    issuer := match r.protocol with | .saml20 => r.issuer | .saml11 => none
    status := .other (r.status.value r.protocol)
    payload := r.payload.map Payload.normal }

/-- Every instant that the text of the response shows has the property. -/
structure EachInstant (P : Instant → Prop) (r : Response) : Prop where
  issued : P r.issueInstant
  payload : ∀ p ∈ r.payload, p.EachInstant P

/-! ## SAML 2.0 -/

section
variable (r : Response) (signature : Option SignatureRecord)

theorem id_node20 : required ((r.node20 signature).element scopes) "ID" = .ok r.id := rfl

theorem issueInstant_node20 : required ((r.node20 signature).element scopes) "IssueInstant"
    = .ok r.issueInstant.format := rfl

theorem prefixes_node20 : Node.prefixes
    ([("xmlns:samlp", Ns.protocol20), ("xmlns:saml", Ns.assertion20), ("ID", r.id),
      ("Version", "2.0"), ("IssueInstant", r.issueInstant.format)]
      ++ optionalAttribute "Destination" r.destination
      ++ optionalAttribute "InResponseTo" r.inResponseTo)
    = [("samlp", Ns.protocol20), ("saml", Ns.assertion20)] := by
  cases r.destination <;> cases r.inResponseTo <;> rfl

theorem ns_node20 : ((r.node20 signature).element scopes).ns? = some Ns.protocol20 := by
  unfold node20
  cases r.destination <;> cases r.inResponseTo <;> rfl

theorem destination_node20 :
    ((r.node20 signature).element scopes).attribute? "Destination" = r.destination := by
  unfold node20
  cases r.destination <;> cases r.inResponseTo <;> rfl

theorem inResponseTo_node20 :
    ((r.node20 signature).element scopes).attribute? "InResponseTo" = r.inResponseTo := by
  unfold node20
  cases r.destination <;> cases r.inResponseTo <;> rfl

theorem issuer_node20 : ((r.node20 signature).element scopes).childText? "Issuer" = r.issuer := by
  have hpayload (scopes : List Scope) := Payload.find?_ne scopes r.payload (·.name == "Issuer")
    fun e he => Payload.name_beq_of_named e _ he rfl
  simp (disch := (intros; exact (show _ from rfl))) only [node20, Node.childText?_eq,
    Node.child?_group, prefixes_node20, Node.elements_append, Node.elements_cons,
    List.find?_append, find?_optionalNode, find?_optionalNode_ne, find?_node_ne, hpayload,
    Option.or_none, Option.map_map]
  cases r.issuer <;> rfl

theorem status_node20 :
    ((((r.node20 signature).element scopes).child? "Status").bind (·.child? "StatusCode")).bind
      (·.attribute? "Value") = some (r.status.value .saml20) := by
  simp (disch := (intros; exact (show _ from rfl))) only [node20, Node.child?_group,
    prefixes_node20, Node.elements_append, Node.elements_cons, List.find?_append,
    find?_optionalNode_ne, find?_node, Option.none_or]
  rfl

theorem signatureOf_node20 : signatureOf ((r.node20 signature).element scopes) = .ok signature := by
  have hpayload (scopes : List Scope) :=
    Payload.find?_ne scopes r.payload (·.isNamed Ns.signature "Signature") fun e he => by
      rw [Element.isNamed, Payload.name_beq_of_named e _ he rfl, Bool.false_and]
  refine signatureOf_eq ([("samlp", Ns.protocol20), ("saml", Ns.assertion20)] :: scopes) _
    signature ?_
  simp (disch := (intros; exact (show _ from rfl))) only [node20, Node.childIn?_group,
    prefixes_node20, Node.elements_append, Node.elements_cons, List.find?_append,
    find?_optionalNode_ne, find?_optionalNode, find?_node_ne, hpayload, Option.none_or,
    Option.or_none]

/-- A search for payloads passes everything before it. -/
theorem find?_node20 (p : Element → Bool) (hp : ∀ e, Payload.named e = false → p e = false) :
    ((r.node20 signature).element scopes).children.find? p
      = (Node.elements ([("samlp", Ns.protocol20), ("saml", Ns.assertion20)] :: scopes)
        (optionalNode Payload.node r.payload)).find? p := by
  show (Node.elements (Node.prefixes _ :: scopes) _).find? p = _
  simp (disch := (intros; exact hp _ (show _ from rfl))) only [prefixes_node20,
    Node.elements_append, Node.elements_cons, List.find?_append, find?_optionalNode_ne,
    find?_node_ne, Option.none_or]

theorem readPayload_node20_eq_ok (hr : ∀ p ∈ r.payload, p.EachInstant Instant.LeapEndsMinute)
    (o : Option Payload) :
    readPayload20 ((r.node20 signature).element scopes) = .ok o ↔
      (∀ p ∈ r.payload, p.Legible .saml20) ∧ o = r.payload.bind (Payload.found? .saml20) := by
  unfold readPayload20 Element.childIn?
  rw [find?_node20 _ _ _ _ fun e he => (Payload.isNamed_ne _ e he).1,
    find?_node20 _ _ _ _ fun e he => (Payload.isNamed_ne _ e he).2]
  cases hpayload : r.payload with
  | none => simp [optionalNode, eq_comm]
  | some p =>
    simp only [Option.mem_def, Option.some.injEq, forall_eq', Option.bind_some]
    cases p with
    | plain a =>
      rw [Payload.find?_plain, Payload.find?_plain, a.isNamed20_node, Payload.isNamed_plain_ne]
      have ha : a.EachInstant Instant.LeapEndsMinute := hr _ hpayload
      by_cases hprotocol : a.protocol = .saml20
      · rw [if_pos (decide_eq_true hprotocol)]
        show (some ∘ Payload.plain) <$> readAssertion20 _ = _ ↔ _
        rw [map_eq_ok]
        constructor
        · rintro ⟨b, hb, rfl⟩
          obtain ⟨hdigits, rfl⟩ := (a.read20_node_eq_ok _ _ hprotocol ha b).1 hb
          exact ⟨fun _ => hdigits, (if_pos hprotocol).symm⟩
        · rintro ⟨hdigits, rfl⟩
          exact ⟨a.normal, (a.read20_node_eq_ok _ _ hprotocol ha _).2 ⟨hdigits hprotocol, rfl⟩,
            (if_pos hprotocol).symm⟩
      · simp [Payload.Legible, Payload.found?, hprotocol, eq_comm]
    | encrypted e =>
      show (some ∘ Payload.encrypted) <$> readEncryptedAssertion (e.node.element _) = _ ↔ _
      rw [e.read_node, map_eq_ok]
      simp [Payload.Legible, Payload.found?, eq_comm]

/-- What is read of a SAML 2.0 response, if anything. -/
theorem read_node20_eq_ok (hr : r.EachInstant Instant.LeapEndsMinute) (q : Response) :
    readResponse20 ((r.node20 signature).element scopes) = .ok q ↔
      r.issueInstant.FourDigit ∧ (∀ p ∈ r.payload, p.Legible .saml20) ∧
        q = { r with
          protocol := .saml20, signature
          status := Status.ofValue (r.status.value .saml20)
          payload := r.payload.bind (Payload.found? .saml20) } := by
  have hversion : required ((r.node20 signature).element scopes) "Version" = .ok "2.0" := rfl
  have hstatus : readStatus ((r.node20 signature).element scopes)
      = .ok (Status.ofValue (r.status.value .saml20)) := by
    unfold readStatus
    rw [status_node20]
  unfold readResponse20
  simp only [hversion, hstatus, id_node20, issueInstant_node20, issuer_node20, destination_node20,
    inResponseTo_node20, signatureOf_node20, ok_bind]
  rw [if_neg (by simp)]
  simp only [bind_eq_ok, readPayload_node20_eq_ok _ _ _ hr.payload,
    readInstant_format_eq_ok _ _ hr.issued]
  constructor
  · rintro ⟨_, ⟨hlegible, rfl⟩, _, ⟨hissued, rfl⟩, h⟩
    exact ⟨hissued, hlegible, (Except.ok.inj h).symm⟩
  · rintro ⟨hissued, hlegible, rfl⟩
    exact ⟨_, ⟨hlegible, rfl⟩, _, ⟨hissued, rfl⟩, rfl⟩

theorem node20_inj (hr : r.EachInstant Instant.LeapEndsMinute) (q : Response)
    (hq : q.EachInstant Instant.LeapEndsMinute) (t : Option SignatureRecord)
    (h : (r.node20 signature).element scopes = (q.node20 t).element scopes) :
    ({ r with
        protocol := .saml20, signature
        status := .other (r.status.value .saml20)
        payload := r.payload.map Payload.normal } : Response)
      = { q with
          protocol := .saml20, signature := t
          status := .other (q.status.value .saml20)
          payload := q.payload.map Payload.normal } := by
  have hid := r.id_node20 scopes signature
  rw [h, id_node20] at hid
  have hissued := r.issueInstant_node20 scopes signature
  rw [h, issueInstant_node20] at hissued
  have hinstant := Instant.format_inj _ _ hq.issued hr.issued (Except.ok.inj hissued)
  have hissuer : r.issuer = q.issuer := by
    rw [← r.issuer_node20 scopes signature, h, issuer_node20]
  have hdestination : r.destination = q.destination := by
    rw [← r.destination_node20 scopes signature, h, destination_node20]
  have hrequest : r.inResponseTo = q.inResponseTo := by
    rw [← r.inResponseTo_node20 scopes signature, h, inResponseTo_node20]
  have hstatus := r.status_node20 scopes signature
  rw [h, status_node20] at hstatus
  have hpayload := r.find?_node20 scopes signature Payload.named fun _ he => he
  rw [h, find?_node20 _ _ _ _ fun _ he => he] at hpayload
  have hpayload := Payload.normal_eq_of_elements _ _ _ hq.payload hr.payload hpayload
  have hsignature := r.signatureOf_node20 scopes signature
  rw [h, signatureOf_node20] at hsignature
  rw [hinstant, hissuer, hdestination, hrequest, hpayload, Option.some.inj hstatus,
    Except.ok.inj hsignature, Except.ok.inj hid]

end

/-! ## SAML 1.1 -/

section
variable (r : Response) (signature : Option SignatureRecord)

theorem id_node11 : required ((r.node11 signature).element scopes) "ResponseID" = .ok r.id := rfl

theorem issueInstant_node11 : required ((r.node11 signature).element scopes) "IssueInstant"
    = .ok r.issueInstant.format := rfl

theorem prefixes_node11 : Node.prefixes
    ([("xmlns:samlp1", Ns.protocol11), ("MajorVersion", "1"), ("MinorVersion", "1"),
      ("ResponseID", r.id), ("IssueInstant", r.issueInstant.format)]
      ++ optionalAttribute "Recipient" r.destination
      ++ optionalAttribute "InResponseTo" r.inResponseTo)
    = [("samlp1", Ns.protocol11)] := by
  cases r.destination <;> cases r.inResponseTo <;> rfl

theorem ns_node11 : ((r.node11 signature).element scopes).ns? = some Ns.protocol11 := by
  unfold node11
  cases r.destination <;> cases r.inResponseTo <;> rfl

theorem destination_node11 :
    ((r.node11 signature).element scopes).attribute? "Recipient" = r.destination := by
  unfold node11
  cases r.destination <;> cases r.inResponseTo <;> rfl

theorem inResponseTo_node11 :
    ((r.node11 signature).element scopes).attribute? "InResponseTo" = r.inResponseTo := by
  unfold node11
  cases r.destination <;> cases r.inResponseTo <;> rfl

theorem status_node11 :
    ((((r.node11 signature).element scopes).child? "Status").bind (·.child? "StatusCode")).bind
      (·.attribute? "Value") = some (r.status.value .saml11) := by
  simp (disch := (intros; exact (show _ from rfl))) only [node11, Node.child?_group,
    prefixes_node11, Node.elements_append, Node.elements_cons, List.find?_append,
    find?_optionalNode_ne, find?_node, Option.none_or]
  rfl

theorem signatureOf_node11 : signatureOf ((r.node11 signature).element scopes) = .ok signature := by
  have hpayload (scopes : List Scope) :=
    Payload.find?_ne scopes r.payload (·.isNamed Ns.signature "Signature") fun e he => by
      rw [Element.isNamed, Payload.name_beq_of_named e _ he rfl, Bool.false_and]
  refine signatureOf_eq ([("samlp1", Ns.protocol11)] :: scopes) _ signature ?_
  simp (disch := (intros; exact (show _ from rfl))) only [node11, Node.childIn?_group,
    prefixes_node11, Node.elements_append, Node.elements_cons, List.find?_append,
    find?_optionalNode, find?_node_ne, hpayload, Option.or_none]

theorem find?_node11 (p : Element → Bool) (hp : ∀ e, Payload.named e = false → p e = false) :
    ((r.node11 signature).element scopes).children.find? p
      = (Node.elements ([("samlp1", Ns.protocol11)] :: scopes)
        (optionalNode Payload.node r.payload)).find? p := by
  show (Node.elements (Node.prefixes _ :: scopes) _).find? p = _
  simp (disch := (intros; exact hp _ (show _ from rfl))) only [prefixes_node11,
    Node.elements_append, Node.elements_cons, List.find?_append, find?_optionalNode_ne,
    find?_node_ne, Option.none_or]

theorem readPayload_node11_eq_ok (hr : ∀ p ∈ r.payload, p.EachInstant Instant.LeapEndsMinute)
    (o : Option Payload) :
    readOptional (fun a => Payload.plain <$> readAssertion11 a)
      (((r.node11 signature).element scopes).childIn? Ns.assertion11 "Assertion") = .ok o ↔
        (∀ p ∈ r.payload, p.Legible .saml11) ∧ o = r.payload.bind (Payload.found? .saml11) := by
  unfold Element.childIn?
  rw [find?_node11 _ _ _ _ fun e he => (Payload.isNamed_ne _ e he).1]
  cases hpayload : r.payload with
  | none => simp [optionalNode, readOptional, eq_comm]
  | some p =>
    simp only [Option.mem_def, Option.some.injEq, forall_eq', Option.bind_some]
    cases p with
    | plain a =>
      rw [Payload.find?_plain, a.isNamed11_node]
      have ha : a.EachInstant Instant.LeapEndsMinute := hr _ hpayload
      by_cases hprotocol : a.protocol = .saml11
      · rw [if_pos (decide_eq_true hprotocol)]
        show some <$> (Payload.plain <$> readAssertion11 _) = _ ↔ _
        simp only [map_eq_ok]
        constructor
        · rintro ⟨_, ⟨b, hb, rfl⟩, rfl⟩
          obtain ⟨hdigits, rfl⟩ := (a.read11_node_eq_ok _ _ hprotocol ha b).1 hb
          exact ⟨fun _ => hdigits, (if_pos hprotocol).symm⟩
        · rintro ⟨hdigits, rfl⟩
          refine ⟨_, ⟨a.normal, ?_, rfl⟩, (if_pos hprotocol).symm⟩
          exact (a.read11_node_eq_ok _ _ hprotocol ha _).2 ⟨hdigits hprotocol, rfl⟩
      · simp [Payload.Legible, Payload.found?, hprotocol, readOptional, eq_comm]
    | encrypted e =>
      show Except.ok none = _ ↔ _
      simp [Payload.Legible, Payload.found?, eq_comm]

/-- What is read of a SAML 1.1 response, if anything. -/
theorem read_node11_eq_ok (hr : r.EachInstant Instant.LeapEndsMinute) (q : Response) :
    readResponse11 ((r.node11 signature).element scopes) = .ok q ↔
      r.issueInstant.FourDigit ∧ (∀ p ∈ r.payload, p.Legible .saml11) ∧
        q = { r with
          protocol := .saml11, signature
          issuer := none
          status := Status.ofValue (r.status.value .saml11)
          payload := r.payload.bind (Payload.found? .saml11) } := by
  have hmajor : required ((r.node11 signature).element scopes) "MajorVersion" = .ok "1" := rfl
  have hstatus : readStatus ((r.node11 signature).element scopes)
      = .ok (Status.ofValue (r.status.value .saml11)) := by
    unfold readStatus
    rw [status_node11]
  unfold readResponse11
  simp only [hmajor, hstatus, id_node11, issueInstant_node11, destination_node11,
    inResponseTo_node11, signatureOf_node11, ok_bind]
  rw [if_neg (by simp)]
  simp only [bind_eq_ok, readPayload_node11_eq_ok _ _ _ hr.payload,
    readInstant_format_eq_ok _ _ hr.issued]
  constructor
  · rintro ⟨_, ⟨hlegible, rfl⟩, _, ⟨hissued, rfl⟩, h⟩
    exact ⟨hissued, hlegible, (Except.ok.inj h).symm⟩
  · rintro ⟨hissued, hlegible, rfl⟩
    exact ⟨_, ⟨hlegible, rfl⟩, _, ⟨hissued, rfl⟩, rfl⟩

theorem node11_inj (hr : r.EachInstant Instant.LeapEndsMinute) (q : Response)
    (hq : q.EachInstant Instant.LeapEndsMinute) (t : Option SignatureRecord)
    (h : (r.node11 signature).element scopes = (q.node11 t).element scopes) :
    ({ r with
        protocol := .saml11, signature
        issuer := none
        status := .other (r.status.value .saml11)
        payload := r.payload.map Payload.normal } : Response)
      = { q with
          protocol := .saml11, signature := t
          issuer := none
          status := .other (q.status.value .saml11)
          payload := q.payload.map Payload.normal } := by
  have hid := r.id_node11 scopes signature
  rw [h, id_node11] at hid
  have hissued := r.issueInstant_node11 scopes signature
  rw [h, issueInstant_node11] at hissued
  have hinstant := Instant.format_inj _ _ hq.issued hr.issued (Except.ok.inj hissued)
  have hdestination : r.destination = q.destination := by
    rw [← r.destination_node11 scopes signature, h, destination_node11]
  have hrequest : r.inResponseTo = q.inResponseTo := by
    rw [← r.inResponseTo_node11 scopes signature, h, inResponseTo_node11]
  have hstatus := r.status_node11 scopes signature
  rw [h, status_node11] at hstatus
  have hpayload := r.find?_node11 scopes signature Payload.named fun _ he => he
  rw [h, find?_node11 _ _ _ _ fun _ he => he] at hpayload
  have hpayload := Payload.normal_eq_of_elements _ _ _ hq.payload hr.payload hpayload
  have hsignature := r.signatureOf_node11 scopes signature
  rw [h, signatureOf_node11] at hsignature
  rw [hinstant, hdestination, hrequest, hpayload, Option.some.inj hstatus,
    Except.ok.inj hsignature, Except.ok.inj hid]

end

/-! ## Either protocol -/

section
variable (r : Response) (signature : Option SignatureRecord) (n : Node)
  (hn : r.node signature = .ok n)
include hn

theorem node_cases :
    (r.protocol = .saml20 ∧ n = r.node20 signature)
      ∨ (r.protocol = .saml11 ∧ n = r.node11 signature) := by
  unfold node at hn
  split at hn
  · next h => exact Or.inl ⟨h, (Except.ok.inj hn).symm⟩
  · cases hn
  · next _ h _ => exact Or.inr ⟨h, (Except.ok.inj hn).symm⟩

theorem name_node : (n.element scopes).name = "Response" := by
  obtain ⟨-, rfl⟩ | ⟨-, rfl⟩ := node_cases r signature n hn <;> rfl

theorem read_node_eq_ok (hr : r.EachInstant Instant.LeapEndsMinute) (q : Response) :
    readResponse (n.element scopes) = .ok q ↔
      r.issueInstant.FourDigit ∧ (∀ p ∈ r.payload, p.Legible r.protocol) ∧
        q = { normal { r with signature } with
          status := Status.ofValue (r.status.value r.protocol)
          payload := r.payload.bind (Payload.found? r.protocol) } := by
  unfold readResponse normal
  obtain ⟨hprotocol, rfl⟩ | ⟨hprotocol, rfl⟩ := node_cases r signature n hn
  · have h20 : ((r.node20 signature).element scopes).isNamed Ns.protocol20 "Response" = true := by
      rw [Element.isNamed, ns_node20]
      rfl
    rw [if_pos h20, read_node20_eq_ok _ _ _ hr]
    simp only [hprotocol]
  · have h20 : ((r.node11 signature).element scopes).isNamed Ns.protocol20 "Response" = false := by
      rw [Element.isNamed, ns_node11]
      rfl
    have h11 : ((r.node11 signature).element scopes).isNamed Ns.protocol11 "Response" = true := by
      rw [Element.isNamed, ns_node11]
      rfl
    rw [if_neg (by simp [h20]), if_pos h11, read_node11_eq_ok _ _ _ hr]
    simp only [hprotocol]

theorem node_inj (hr : r.EachInstant Instant.LeapEndsMinute) (q : Response)
    (hq : q.EachInstant Instant.LeapEndsMinute) (t : Option SignatureRecord) (m : Node)
    (hm : q.node t = .ok m) (h : n.element scopes = m.element scopes) :
    normal { r with signature } = normal { q with signature := t } := by
  unfold normal
  have hns := congrArg (·.ns?) h
  obtain ⟨hrp, rfl⟩ | ⟨hrp, rfl⟩ := node_cases r signature n hn <;>
    obtain ⟨hqp, rfl⟩ | ⟨hqp, rfl⟩ := node_cases q t m hm <;>
    simp only [hrp, hqp, ns_node20, ns_node11] at hns ⊢
  · exact node20_inj scopes r signature hr q hq t h
  · exact absurd hns (by decide)
  · exact absurd hns (by decide)
  · exact node11_inj scopes r signature hr q hq t h

theorem readable_node : n.readable (room + 7) scopes = true := by
  have hpayload (scopes : List Scope) : Node.allReadable (room + 6) scopes
      (optionalNode Payload.node r.payload) = true :=
    allReadable_optionalNode _ _ _ _ fun p => p.readable_node room scopes
  have hsignature (scopes : List Scope) : Node.allReadable (room + 6) scopes
      (optionalNode SignatureRecord.node signature) = true :=
    allReadable_optionalNode _ _ _ _ fun s => s.readable_node _ _
  obtain ⟨-, rfl⟩ | ⟨-, rfl⟩ := node_cases r signature n hn
  · refine (Node.readable_group ..).2 ⟨by omega, ?_, ?_⟩
    · cases r.destination <;> cases r.inResponseTo <;> rfl
    · rw [prefixes_node20]
      simp only [allReadable_append, Node.allReadable_cons]
      exact ⟨⟨allReadable_optionalNode _ _ _ _ fun _ => rfl, hsignature _⟩, rfl, hpayload _⟩
  · refine (Node.readable_group ..).2 ⟨by omega, ?_, ?_⟩
    · cases r.destination <;> cases r.inResponseTo <;> rfl
    · rw [prefixes_node11]
      simp only [allReadable_append, Node.allReadable_cons]
      exact ⟨hsignature _, rfl, hpayload _⟩

end

/-! ## Main result -/

/-- A written response reads back as its text tells it, if its instants can be read. -/
theorem decode_encode_eq_ok (r : Response) (hr : r.EachInstant Instant.LeapEndsMinute)
    (text : String) (htext : r.encode = .ok text) (q : Response) :
    decode text = .ok q ↔ r.issueInstant.FourDigit ∧ (∀ p ∈ r.payload, p.Legible r.protocol) ∧
      q = { r.normal with
        status := Status.ofValue (r.status.value r.protocol)
        payload := r.payload.bind (Payload.found? r.protocol) } := by
  obtain ⟨n, hn, rfl⟩ := (map_eq_ok ..).1 htext
  unfold decode
  rw [parse_render n (r.readable_node 57 [] r.signature n hn)]
  exact read_node_eq_ok [] r r.signature n hn hr q

end Response

end Federation.Saml
