import Federation.Proofs.Saml.Pieces
import Federation.Proofs.Saml.Timestamps

/-!
# Reading back assertions

Every field of an assertion can be looked up in the element that the assertion is written as.

    readAssertion ((a.node s).element scopes) = ok b  ↔
      a.EachInstant Instant.FourDigit ∧ b = normal { a with signature := s }
    (a.node s).element scopes = (b.node t).element scopes  →
      normal { a with signature := s } = normal { b with signature := t }

Both are about assertions whose leap seconds end minutes, since others are written like the seconds
after them. Beyond that the first needs instants that can be read back, and the second holds for all
of them. Both take the fields one by one from the same lookups.
-/

namespace Federation.Saml

open Federation.Xml Federation.Time
open Element (Scope)

variable (room : Nat) (scopes : List Scope)

/-! ## Instants and windows -/

theorem readInstant_format_eq_ok (t u : Instant) (ht : t.LeapEndsMinute) :
    readInstant t.format = .ok u ↔ t.FourDigit ∧ u = t := by
  rw [readInstant_eq_ok, t.parse?_format_eq_some, t.carried_eq_self.2 ht]

namespace Validity

/-- Both ends of the window have the property. -/
def EachInstant (P : Instant → Prop) (v : Validity) : Prop := P v.notBefore ∧ P v.notOnOrAfter

instance (P : Instant → Prop) [DecidablePred P] (v : Validity) : Decidable (v.EachInstant P) :=
  inferInstanceAs (Decidable (_ ∧ _))

theorem read_node_eq_ok (name : String) (o o' : Option Validity)
    (ho : ∀ v ∈ o, v.EachInstant Instant.LeapEndsMinute) :
    readValidity (o.map fun v => (v.node name).element scopes) = .ok o' ↔
      (∀ v ∈ o, v.EachInstant Instant.FourDigit) ∧ o' = o := by
  cases o with
  | none => simp [readValidity, eq_comm]
  | some v =>
    obtain ⟨hstart, hstop⟩ := ho v rfl
    have hof : of v.notBefore v.notOnOrAfter = .ok v := dif_pos v.ordered
    have hbounds : ofBounds (some v.notBefore) (some v.notOnOrAfter) = .ok (some v) := by
      show some <$> of v.notBefore v.notOnOrAfter = _
      rw [hof]
      rfl
    show ((some <$> readInstant v.notBefore.format) >>= fun notBefore =>
      (some <$> readInstant v.notOnOrAfter.format) >>= fun notOnOrAfter =>
        ofBounds notBefore notOnOrAfter) = _ ↔ _
    simp only [bind_eq_ok, map_eq_ok, readInstant_format_eq_ok _ _ hstart,
      readInstant_format_eq_ok _ _ hstop]
    constructor
    · rintro ⟨_, ⟨_, ⟨hstart, rfl⟩, rfl⟩, _, ⟨_, ⟨hstop, rfl⟩, rfl⟩, h⟩
      rw [hbounds] at h
      refine ⟨fun w hw => ?_, (Except.ok.inj h).symm⟩
      cases hw
      exact ⟨hstart, hstop⟩
    · rintro ⟨h, rfl⟩
      obtain ⟨hstart, hstop⟩ := h v rfl
      exact ⟨_, ⟨_, ⟨hstart, rfl⟩, rfl⟩, _, ⟨_, ⟨hstop, rfl⟩, rfl⟩, hbounds⟩

theorem node_inj (name : String) (v w : Validity) (hv : v.EachInstant Instant.LeapEndsMinute)
    (hw : w.EachInstant Instant.LeapEndsMinute)
    (h : (v.node name).element scopes = (w.node name).element scopes) : v = w := by
  have hstart : some v.notBefore.format = some w.notBefore.format :=
    congrArg (·.attribute? "NotBefore") h
  have hstop : some v.notOnOrAfter.format = some w.notOnOrAfter.format :=
    congrArg (·.attribute? "NotOnOrAfter") h
  have hstart := Instant.format_inj _ _ hv.1 hw.1 (Option.some.inj hstart)
  have hstop := Instant.format_inj _ _ hv.2 hw.2 (Option.some.inj hstop)
  cases v
  cases w
  exact Validity.mk.injEq .. ▸ ⟨hstart, hstop⟩

theorem map_node_inj (name : String) (o o' : Option Validity)
    (ho : ∀ v ∈ o, v.EachInstant Instant.LeapEndsMinute)
    (ho' : ∀ v ∈ o', v.EachInstant Instant.LeapEndsMinute)
    (h : o.map (fun v => (v.node name).element scopes)
      = o'.map fun v => (v.node name).element scopes) : o = o' := by
  cases o <;> cases o'
  · rfl
  · cases h
  · cases h
  · exact congrArg some (node_inj scopes name _ _ (ho _ rfl) (ho' _ rfl) (Option.some.inj h))

end Validity

theorem signatureOf_eq (e : Element) (signature : Option SignatureRecord)
    (h : e.childIn? Ns.signature "Signature" = signature.map fun s => s.node.element scopes) :
    signatureOf e = .ok signature := by
  unfold signatureOf
  rw [h]
  cases signature with
  | none => rfl
  | some s =>
    show some <$> readSignature (s.node.element scopes) = _
    rw [s.read_node]
    rfl

namespace Assertion

/-- The assertion as its text tells it: SAML 1.1 writes no class as the unspecified method. -/
def normal (a : Assertion) : Assertion :=
  match a.protocol with
  | .saml20 => a
  | .saml11 => { a with authnContextClass := a.authnContextClass.filter (· ≠ unspecifiedMethod11) }

/-- Every instant in the assertion has the property. -/
structure EachInstant (P : Instant → Prop) (a : Assertion) : Prop where
  issued : P a.issueInstant
  window : ∀ v ∈ a.validity, v.EachInstant P

/-- The assertion reads back as it is: its instants do, and under SAML 1.1 its context class is not
the method that is written for none. -/
structure Representable (a : Assertion) : Prop extends a.EachInstant Instant.Representable where
  context : a.protocol = .saml11 → a.authnContextClass ≠ some unspecifiedMethod11

/-- An assertion that is told as it is has a context class that SAML 1.1 can tell from none. -/
theorem normal_eq_iff (a : Assertion) : a.normal = a ↔
    (a.protocol = .saml11 → a.authnContextClass ≠ some unspecifiedMethod11) := by
  unfold normal
  cases hprotocol : a.protocol with
  | saml20 => simp
  | saml11 =>
    simp only [true_implies]
    constructor
    · intro h hclass
      have hcontext := congrArg (·.authnContextClass) h
      simp [hclass] at hcontext
    · intro h
      have hcontext : a.authnContextClass.filter (· ≠ unspecifiedMethod11)
          = a.authnContextClass := by
        cases hclass : a.authnContextClass with
        | none => rfl
        | some c =>
          have hc : c ≠ unspecifiedMethod11 := fun hc => h (hc ▸ hclass)
          simp [hc]
      simp only [hcontext]
      rw [← hprotocol]

theorem eachInstant_representable_iff (a : Assertion) :
    a.EachInstant Instant.Representable ↔
      a.EachInstant Instant.FourDigit ∧ a.EachInstant Instant.LeapEndsMinute := by
  constructor
  · rintro ⟨hissued, hwindow⟩
    exact ⟨⟨hissued.1, fun v hv => ⟨(hwindow v hv).1.1, (hwindow v hv).2.1⟩⟩,
      hissued.2, fun v hv => ⟨(hwindow v hv).1.2, (hwindow v hv).2.2⟩⟩
  · rintro ⟨hyear, hleap⟩
    exact ⟨⟨hyear.issued, hleap.issued⟩, fun v hv =>
      ⟨⟨(hyear.window v hv).1, (hleap.window v hv).1⟩,
        (hyear.window v hv).2, (hleap.window v hv).2⟩⟩

theorem representable_iff (a : Assertion) :
    a.Representable ↔ a.EachInstant Instant.Representable ∧ a = a.normal := by
  rw [eq_comm, normal_eq_iff]
  exact ⟨fun h => ⟨h.toEachInstant, h.context⟩, fun h => ⟨h.1, h.2⟩⟩

theorem Representable.normal_eq {a : Assertion} (h : a.Representable) : a.normal = a :=
  (normal_eq_iff a).2 h.context

/-! ## SAML 2.0 -/

section
variable (a : Assertion) (signature : Option SignatureRecord)

theorem id_node20 : required ((a.node20 signature).element scopes) "ID" = .ok a.id := rfl

theorem issueInstant_node20 : required ((a.node20 signature).element scopes) "IssueInstant"
    = .ok a.issueInstant.format := rfl

theorem issuer_node20 : ((a.node20 signature).element scopes).childText? "Issuer" = a.issuer := by
  simp (disch := (intros; exact (show _ from rfl))) only [node20, Node.childText?_eq,
    Node.child?_group, Node.elements_append, List.find?_append, find?_optionalNode,
    find?_optionalNode_ne, find?_nodesIf_ne, Option.or_none, Option.map_map]
  cases a.issuer <;> rfl

theorem subject_node20 : (((a.node20 signature).element scopes).child? "Subject").map readSubject20
    = a.subject := by
  simp (disch := (intros; exact (show _ from rfl))) only [node20, Node.child?_group,
    Node.elements_append, List.find?_append, find?_optionalNode, find?_optionalNode_ne,
    find?_nodesIf_ne, Option.or_none, Option.none_or]
  cases hsubject : a.subject with
  | none => rfl
  | some subject => exact congrArg some (subject.read_node20 _)

theorem conditions_node20 : ((a.node20 signature).element scopes).child? "Conditions"
    = a.validity.map fun v =>
      (v.node "saml:Conditions").element ([("saml", Ns.assertion20)] :: scopes) := by
  simp (disch := (intros; exact (show _ from rfl))) only [node20, Node.child?_group,
    Node.elements_append, List.find?_append, find?_optionalNode, find?_optionalNode_ne,
    find?_nodesIf_ne, Option.or_none, Option.none_or]
  rfl

theorem authnContextClass_node20 :
    ((((a.node20 signature).element scopes).child? "AuthnStatement").bind
      (·.child? "AuthnContext")).bind (·.childText? "AuthnContextClassRef")
      = a.authnContextClass := by
  simp (disch := (intros; exact (show _ from rfl))) only [node20, Node.child?_group,
    Node.elements_append, List.find?_append, find?_optionalNode, find?_optionalNode_ne,
    find?_nodesIf_ne, Option.or_none, Option.none_or]
  cases a.authnContextClass <;> rfl

theorem attributes_node20 : readAttributes "Name"
    (((a.node20 signature).element scopes).childrenNamed "AttributeStatement")
      = .ok a.attributes := by
  simp (disch := (intros; exact (show _ from rfl))) only [node20, Node.childrenNamed_group,
    Node.elements_append, List.filter_append, filter_nodesIf, filter_optionalNode_ne,
    List.nil_append]
  cases hempty : a.attributes.isEmpty with
  | true =>
    rw [List.isEmpty_iff.1 hempty]
    rfl
  | false =>
    refine readAttributes20 ([] :: [("saml", Ns.assertion20)] :: scopes) _ _ ?_
    exact filter_map _ (·.name == "Attribute") attributeNode20 a.attributes fun _ => rfl

theorem signatureOf_node20 : signatureOf ((a.node20 signature).element scopes) = .ok signature := by
  refine signatureOf_eq ([("saml", Ns.assertion20)] :: scopes) _ signature ?_
  simp (disch := (intros; exact (show _ from rfl))) only [node20, Node.childIn?_group,
    Node.elements_append, List.find?_append, find?_optionalNode, find?_optionalNode_ne,
    find?_nodesIf_ne, Option.or_none, Option.none_or]
  rfl

/-- What is read of a SAML 2.0 assertion, if anything. -/
theorem read_node20_eq_ok (ha : a.EachInstant Instant.LeapEndsMinute) (b : Assertion) :
    readAssertion20 ((a.node20 signature).element scopes) = .ok b ↔
      a.EachInstant Instant.FourDigit ∧ b = { a with protocol := .saml20, signature } := by
  have hversion : required ((a.node20 signature).element scopes) "Version" = .ok "2.0" := rfl
  unfold readAssertion20
  simp only [hversion, attributes_node20, id_node20, issueInstant_node20, issuer_node20,
    subject_node20, conditions_node20, authnContextClass_node20, signatureOf_node20, ok_bind]
  rw [if_neg (by simp)]
  simp only [bind_eq_ok, readInstant_format_eq_ok _ _ ha.issued,
    Validity.read_node_eq_ok _ _ _ _ ha.window]
  constructor
  · rintro ⟨_, ⟨hissued, rfl⟩, _, ⟨hwindow, rfl⟩, h⟩
    exact ⟨⟨hissued, hwindow⟩, (Except.ok.inj h).symm⟩
  · rintro ⟨h, rfl⟩
    exact ⟨_, ⟨h.issued, rfl⟩, _, ⟨h.window, rfl⟩, rfl⟩

theorem node20_inj (ha : a.EachInstant Instant.LeapEndsMinute) (b : Assertion)
    (hb : b.EachInstant Instant.LeapEndsMinute) (t : Option SignatureRecord)
    (h : (a.node20 signature).element scopes = (b.node20 t).element scopes) :
    { a with protocol := .saml20, signature }
      = { b with protocol := .saml20, signature := t } := by
  have hid := a.id_node20 scopes signature
  rw [h, id_node20] at hid
  have hissued := a.issueInstant_node20 scopes signature
  rw [h, issueInstant_node20] at hissued
  have hinstant := Instant.format_inj _ _ hb.issued ha.issued (Except.ok.inj hissued)
  have hissuer : a.issuer = b.issuer := by
    rw [← a.issuer_node20 scopes signature, h, issuer_node20]
  have hsubject : a.subject = b.subject := by
    rw [← a.subject_node20 scopes signature, h, subject_node20]
  have hconditions := a.conditions_node20 scopes signature
  rw [h, conditions_node20] at hconditions
  have hwindow := Validity.map_node_inj _ _ _ _ hb.window ha.window hconditions
  have hcontext : a.authnContextClass = b.authnContextClass := by
    rw [← a.authnContextClass_node20 scopes signature, h, authnContextClass_node20]
  have hattributes := a.attributes_node20 scopes signature
  rw [h, attributes_node20] at hattributes
  have hsignature := a.signatureOf_node20 scopes signature
  rw [h, signatureOf_node20] at hsignature
  rw [hinstant, hissuer, hsubject, hwindow, hcontext, Except.ok.inj hattributes,
    Except.ok.inj hsignature, Except.ok.inj hid]

end

/-! ## SAML 1.1 -/

section
variable (a : Assertion) (signature : Option SignatureRecord)

theorem id_node11 : required ((a.node11 signature).element scopes) "AssertionID" = .ok a.id := rfl

theorem issueInstant_node11 : required ((a.node11 signature).element scopes) "IssueInstant"
    = .ok a.issueInstant.format := by
  unfold node11
  cases a.issuer <;> rfl

theorem issuer_node11 : ((a.node11 signature).element scopes).attribute? "Issuer" = a.issuer := by
  unfold node11
  cases a.issuer <;> rfl

theorem prefixes_node11 : Node.prefixes
    ([("xmlns:saml1", Ns.assertion11), ("MajorVersion", "1"), ("MinorVersion", "1"),
      ("AssertionID", a.id)]
      ++ optionalAttribute "Issuer" a.issuer ++ [("IssueInstant", a.issueInstant.format)])
    = [("saml1", Ns.assertion11)] := by
  cases a.issuer <;> rfl

theorem conditions_node11 : ((a.node11 signature).element scopes).child? "Conditions"
    = a.validity.map fun v =>
      (v.node "saml1:Conditions").element ([("saml1", Ns.assertion11)] :: scopes) := by
  simp (disch := (intros; exact (show _ from rfl))) only [node11, Node.child?_group,
    prefixes_node11, Node.elements_append, List.find?_append, find?_optionalNode,
    find?_nodesIf_ne, find?_optionalNode_ne, Option.or_none]

/-- The authentication statement, which holds the method and the subject. -/
def authenticationNode : Node :=
  .group "saml1:AuthenticationStatement"
    [("AuthenticationMethod", a.authnContextClass.getD unspecifiedMethod11),
     ("AuthenticationInstant", a.issueInstant.format)]
    (optionalNode Subject.node11 a.subject)

/-- The attribute statement, which repeats the subject. -/
def attributeStatementNode : Node :=
  .group "saml1:AttributeStatement" []
    (optionalNode Subject.node11 a.subject ++ a.attributes.map attributeNode11)

theorem authentication_node11 :
    ((a.node11 signature).element scopes).child? "AuthenticationStatement"
      = if a.subject.isSome || a.authnContextClass.isSome then
          some (a.authenticationNode.element ([("saml1", Ns.assertion11)] :: scopes))
        else none := by
  simp (disch := (intros; exact (show _ from rfl))) only [node11, Node.child?_group,
    prefixes_node11, Node.elements_append, List.find?_append, find?_nodesIf, find?_nodesIf_ne,
    find?_optionalNode_ne, Option.or_none, Option.none_or]
  rfl

theorem statements_node11 :
    ((a.node11 signature).element scopes).childrenNamed "AttributeStatement"
      = if !a.attributes.isEmpty then
          [a.attributeStatementNode.element ([("saml1", Ns.assertion11)] :: scopes)]
        else [] := by
  simp (disch := (intros; exact (show _ from rfl))) only [node11, Node.childrenNamed_group,
    prefixes_node11, Node.elements_append, List.filter_append, filter_nodesIf, filter_nodesIf_ne,
    filter_optionalNode_ne, List.append_nil, List.nil_append]
  rfl

theorem authnContextClass_node11 :
    ((((a.node11 signature).element scopes).child? "AuthenticationStatement").bind
      (·.attribute? "AuthenticationMethod")).filter (· ≠ unspecifiedMethod11)
      = a.authnContextClass.filter (· ≠ unspecifiedMethod11) := by
  have hmethod (scopes : List Scope) :
      (a.authenticationNode.element scopes).attribute? "AuthenticationMethod"
        = some (a.authnContextClass.getD unspecifiedMethod11) := rfl
  rw [authentication_node11]
  cases hcontext : a.authnContextClass with
  | some c =>
    rw [if_pos (by simp), Option.bind_some, hmethod, hcontext]
    rfl
  | none =>
    split
    · rw [Option.bind_some, hmethod, hcontext]
      simp
    · rfl

theorem subject_authenticationNode : (a.authenticationNode.element scopes).child? "Subject"
    = a.subject.map fun s => s.node11.element ([] :: scopes) := by
  simp (disch := (intros; exact (show _ from rfl))) only [authenticationNode, Node.child?_group,
    find?_optionalNode]
  rfl

theorem subject_attributeStatementNode :
    (a.attributeStatementNode.element scopes).child? "Subject"
      = a.subject.map fun s => s.node11.element ([] :: scopes) := by
  simp (disch := (intros; exact (show _ from rfl))) only [attributeStatementNode,
    Node.child?_group, Node.elements_append, List.find?_append, find?_optionalNode, find?_map_ne,
    Option.or_none]
  rfl

theorem subject_node11 :
    (((((a.node11 signature).element scopes).child? "AuthenticationStatement").bind
      (·.child? "Subject")).or
        ((((a.node11 signature).element scopes).childrenNamed "AttributeStatement").findSome?
          (·.child? "Subject"))).map readSubject11 = a.subject := by
  rw [authentication_node11, statements_node11]
  cases hsubject : a.subject with
  | some s =>
    rw [if_pos (by simp), Option.bind_some, subject_authenticationNode, hsubject, Option.map_some,
      Option.some_or, Option.map_some, Subject.read_node11]
  | none =>
    have hauthentication := a.subject_authenticationNode ([("saml1", Ns.assertion11)] :: scopes)
    have hstatement := a.subject_attributeStatementNode ([("saml1", Ns.assertion11)] :: scopes)
    rw [hsubject, Option.map_none] at hauthentication hstatement
    split <;> split <;> simp [hauthentication, hstatement]

theorem attributes_node11 : readAttributes "AttributeName"
    (((a.node11 signature).element scopes).childrenNamed "AttributeStatement")
      = .ok a.attributes := by
  rw [statements_node11]
  split
  · refine readAttributes11 ([] :: [("saml1", Ns.assertion11)] :: scopes) _ _ ?_
    simp (disch := (intros; exact (show _ from rfl))) only [attributeStatementNode,
      Node.childrenNamed_group, Node.elements_append, List.filter_append, filter_optionalNode_ne,
      filter_map, List.nil_append]
    rfl
  · next h =>
    have hnil : a.attributes = [] := by simpa using h
    rw [hnil]
    rfl

theorem signatureOf_node11 : signatureOf ((a.node11 signature).element scopes) = .ok signature := by
  refine signatureOf_eq ([("saml1", Ns.assertion11)] :: scopes) _ signature ?_
  simp (disch := (intros; exact (show _ from rfl))) only [node11, Node.childIn?_group,
    prefixes_node11, Node.elements_append, List.find?_append, find?_nodesIf_ne,
    find?_optionalNode_ne, find?_optionalNode, Option.none_or]

/-- What is read of a SAML 1.1 assertion, if anything. -/
theorem read_node11_eq_ok (ha : a.EachInstant Instant.LeapEndsMinute) (b : Assertion) :
    readAssertion11 ((a.node11 signature).element scopes) = .ok b ↔
      a.EachInstant Instant.FourDigit ∧ b = { a with
        protocol := .saml11, signature
        authnContextClass := a.authnContextClass.filter (· ≠ unspecifiedMethod11) } := by
  have hmajor : required ((a.node11 signature).element scopes) "MajorVersion" = .ok "1" := rfl
  have hminor : required ((a.node11 signature).element scopes) "MinorVersion" = .ok "1" := rfl
  unfold readAssertion11
  simp only [hmajor, hminor, attributes_node11, id_node11, issueInstant_node11, issuer_node11,
    subject_node11, conditions_node11, authnContextClass_node11, signatureOf_node11, ok_bind]
  rw [if_neg (by simp)]
  simp only [bind_eq_ok, readInstant_format_eq_ok _ _ ha.issued,
    Validity.read_node_eq_ok _ _ _ _ ha.window]
  constructor
  · rintro ⟨_, ⟨hissued, rfl⟩, _, ⟨hwindow, rfl⟩, h⟩
    exact ⟨⟨hissued, hwindow⟩, (Except.ok.inj h).symm⟩
  · rintro ⟨h, rfl⟩
    exact ⟨_, ⟨h.issued, rfl⟩, _, ⟨h.window, rfl⟩, rfl⟩

theorem node11_inj (ha : a.EachInstant Instant.LeapEndsMinute) (b : Assertion)
    (hb : b.EachInstant Instant.LeapEndsMinute) (t : Option SignatureRecord)
    (h : (a.node11 signature).element scopes = (b.node11 t).element scopes) :
    ({ a with
        protocol := .saml11, signature
        authnContextClass := a.authnContextClass.filter (· ≠ unspecifiedMethod11) } : Assertion)
      = { b with
          protocol := .saml11, signature := t
          authnContextClass := b.authnContextClass.filter (· ≠ unspecifiedMethod11) } := by
  have hid := a.id_node11 scopes signature
  rw [h, id_node11] at hid
  have hissued := a.issueInstant_node11 scopes signature
  rw [h, issueInstant_node11] at hissued
  have hinstant := Instant.format_inj _ _ hb.issued ha.issued (Except.ok.inj hissued)
  have hissuer : a.issuer = b.issuer := by
    rw [← a.issuer_node11 scopes signature, h, issuer_node11]
  have hsubject : a.subject = b.subject := by
    rw [← a.subject_node11 scopes signature, h, subject_node11]
  have hconditions := a.conditions_node11 scopes signature
  rw [h, conditions_node11] at hconditions
  have hwindow := Validity.map_node_inj _ _ _ _ hb.window ha.window hconditions
  have hcontext : a.authnContextClass.filter (· ≠ unspecifiedMethod11)
      = b.authnContextClass.filter (· ≠ unspecifiedMethod11) := by
    rw [← a.authnContextClass_node11 scopes signature, h, authnContextClass_node11]
  have hattributes := a.attributes_node11 scopes signature
  rw [h, attributes_node11] at hattributes
  have hsignature := a.signatureOf_node11 scopes signature
  rw [h, signatureOf_node11] at hsignature
  rw [hinstant, hissuer, hsubject, hwindow, hcontext, Except.ok.inj hattributes,
    Except.ok.inj hsignature, Except.ok.inj hid]

end

/-! ## Either protocol -/

section
variable (a : Assertion) (signature : Option SignatureRecord)

theorem isNamed_node20 :
    ((a.node20 signature).element scopes).isNamed Ns.assertion20 "Assertion" = true := rfl

theorem ns_node11 : ((a.node11 signature).element scopes).ns? = some Ns.assertion11 := by
  unfold node11
  cases a.issuer <;> rfl

theorem isNamed_node11 :
    ((a.node11 signature).element scopes).isNamed Ns.assertion11 "Assertion" = true := by
  rw [Element.isNamed, ns_node11]
  rfl

theorem isNamed_node11_ne :
    ((a.node11 signature).element scopes).isNamed Ns.assertion20 "Assertion" = false := by
  rw [Element.isNamed, ns_node11]
  rfl

theorem read_node_eq_ok (ha : a.EachInstant Instant.LeapEndsMinute) (b : Assertion) :
    readAssertion ((a.node signature).element scopes) = .ok b ↔
      a.EachInstant Instant.FourDigit ∧ b = normal { a with signature } := by
  unfold readAssertion node normal
  cases a.protocol with
  | saml20 =>
    simp only [isNamed_node20, if_true, read_node20_eq_ok _ _ _ ha]
  | saml11 =>
    simp only [isNamed_node11, isNamed_node11_ne, if_true, Bool.false_eq_true, if_false,
      read_node11_eq_ok _ _ _ ha]

theorem isNamed20_node : ((a.node signature).element scopes).isNamed Ns.assertion20 "Assertion"
    = decide (a.protocol = .saml20) := by
  unfold node
  cases a.protocol with
  | saml20 => rfl
  | saml11 => exact a.isNamed_node11_ne scopes signature

theorem isNamed11_node : ((a.node signature).element scopes).isNamed Ns.assertion11 "Assertion"
    = decide (a.protocol = .saml11) := by
  unfold node
  cases a.protocol with
  | saml20 => rfl
  | saml11 => exact a.isNamed_node11 scopes signature

theorem read20_node_eq_ok (h : a.protocol = .saml20) (ha : a.EachInstant Instant.LeapEndsMinute)
    (b : Assertion) :
    readAssertion20 ((a.node signature).element scopes) = .ok b ↔
      a.EachInstant Instant.FourDigit ∧ b = normal { a with signature } := by
  rw [← read_node_eq_ok scopes a signature ha, readAssertion, isNamed20_node, h]
  rfl

theorem read11_node_eq_ok (h : a.protocol = .saml11) (ha : a.EachInstant Instant.LeapEndsMinute)
    (b : Assertion) :
    readAssertion11 ((a.node signature).element scopes) = .ok b ↔
      a.EachInstant Instant.FourDigit ∧ b = normal { a with signature } := by
  rw [← read_node_eq_ok scopes a signature ha, readAssertion, isNamed20_node, isNamed11_node, h]
  rfl

theorem node_inj (ha : a.EachInstant Instant.LeapEndsMinute) (b : Assertion)
    (hb : b.EachInstant Instant.LeapEndsMinute) (t : Option SignatureRecord)
    (h : (a.node signature).element scopes = (b.node t).element scopes) :
    normal { a with signature } = normal { b with signature := t } := by
  unfold node at h
  unfold normal
  cases hp : a.protocol <;> cases hq : b.protocol <;> simp only [hp, hq] at h ⊢
  · exact node11_inj scopes a signature ha b hb t h
  · exact absurd (b.isNamed_node20 scopes t) (by rw [← h, isNamed_node11_ne]; decide)
  · exact absurd (a.isNamed_node20 scopes signature) (by rw [h, isNamed_node11_ne]; decide)
  · exact node20_inj scopes a signature ha b hb t h

/-! ## Depth -/

theorem readable_node20 : (a.node20 signature).readable (room + 6) scopes = true := by
  refine (Node.readable_group ..).2 ⟨by omega, rfl, ?_⟩
  simp only [allReadable_append, and_assoc]
  exact ⟨allReadable_optionalNode _ _ _ _ fun _ => rfl,
    allReadable_optionalNode _ _ _ _ fun s => s.readable_node _ _,
    allReadable_optionalNode _ _ _ _ fun s => s.readable_node20 _ _,
    allReadable_optionalNode _ _ _ _ fun _ => rfl,
    allReadable_optionalNode _ _ _ _ fun _ => rfl,
    allReadable_nodesIf _ _ _ _ ((Node.readable_group ..).2
      ⟨by omega, rfl, allReadable_map _ _ _ _ fun _ => rfl⟩)⟩

theorem readable_node11 : (a.node11 signature).readable (room + 6) scopes = true := by
  have hsubject : Node.allReadable (room + 4) ([] :: [("saml1", Ns.assertion11)] :: scopes)
      (optionalNode Subject.node11 a.subject) = true :=
    allReadable_optionalNode _ _ _ _ fun s => s.readable_node11 _ _
  have hattributes : Node.allReadable (room + 4) ([] :: [("saml1", Ns.assertion11)] :: scopes)
      (a.attributes.map attributeNode11) = true :=
    allReadable_map _ _ _ _ fun _ => rfl
  refine (Node.readable_group ..).2 ⟨by omega, ?_, ?_⟩
  · cases a.issuer <;> rfl
  · rw [prefixes_node11]
    simp only [allReadable_append, and_assoc]
    exact ⟨allReadable_optionalNode _ _ _ _ fun _ => rfl,
      allReadable_nodesIf _ _ _ _ ((Node.readable_group ..).2 ⟨by omega, rfl, hsubject⟩),
      allReadable_nodesIf _ _ _ _ ((Node.readable_group ..).2
        ⟨by omega, rfl, (allReadable_append ..).2 ⟨hsubject, hattributes⟩⟩),
      allReadable_optionalNode _ _ _ _ fun s => s.readable_node _ _⟩

theorem readable_node : (a.node signature).readable (room + 6) scopes = true := by
  unfold node
  cases a.protocol with
  | saml20 => exact a.readable_node20 room scopes signature
  | saml11 => exact a.readable_node11 room scopes signature

end

/-! ## Main result -/

/-- A written assertion reads back as its text tells it, if its instants can be read. -/
theorem decode_encode_eq_ok (a b : Assertion) (ha : a.EachInstant Instant.LeapEndsMinute) :
    decode a.encode = .ok b ↔ a.EachInstant Instant.FourDigit ∧ b = a.normal := by
  unfold decode encode
  rw [parse_render _ (a.readable_node 58 [] a.signature)]
  exact read_node_eq_ok [] a a.signature ha b

theorem decode_encode (a : Assertion) (h : a.EachInstant Instant.Representable) :
    decode a.encode = .ok a.normal := by
  obtain ⟨hyear, hleap⟩ := a.eachInstant_representable_iff.1 h
  exact (decode_encode_eq_ok a a.normal hleap).2 ⟨hyear, rfl⟩

theorem Representable.decode_encode {a : Assertion} (h : a.Representable) :
    decode a.encode = .ok a := by
  rw [a.decode_encode h.toEachInstant, h.normal_eq]

end Assertion

end Federation.Saml
