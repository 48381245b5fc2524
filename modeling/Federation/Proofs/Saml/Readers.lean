import Federation.Proofs.Saml.Responses

/-!
# What readers let through

Readers take elements in any layout, but not everything comes out of them. A message has the
protocol of its reader, a status is one that some value stands for, and an instant was read off a
clock, so a leap second that it is in ends a minute.

    readAssertion e = ok a  →  a.EachInstant Instant.LeapEndsMinute
    readResponse e = ok r  →  r.EachInstant Instant.LeapEndsMinute

- `Assertion.of_read20` and the like say of one reader all that is needed about what it reads.
-/

namespace Federation.Saml

open Federation.Xml Federation.Time

/-! ## Windows -/

theorem leapEndsMinute_of_optionalInstant (e : Element) (name : String) (o : Option Instant)
    (h : optionalInstant e name = .ok o) : ∀ t ∈ o, t.LeapEndsMinute := by
  rintro t rfl
  unfold optionalInstant readOptional at h
  split at h
  · cases h
  · obtain ⟨u, hu, h⟩ := (map_eq_ok ..).1 h
    cases h
    exact leapEndsMinute_of_read _ t hu

theorem Validity.leapEndsMinute_of_read (o : Option Element) (o' : Option Validity)
    (h : readValidity o = .ok o') : ∀ v ∈ o', v.EachInstant Instant.LeapEndsMinute := by
  rintro v rfl
  cases o with
  | none => cases h
  | some e =>
    obtain ⟨notBefore, hstart, h⟩ := (bind_eq_ok ..).1 h
    obtain ⟨notOnOrAfter, hstop, h⟩ := (bind_eq_ok ..).1 h
    unfold ofBounds at h
    split at h
    · obtain ⟨w, hw, h⟩ := (map_eq_ok ..).1 h
      cases h
      unfold of at hw
      split at hw
      · cases hw
        exact ⟨leapEndsMinute_of_optionalInstant _ _ _ hstart _ rfl,
          leapEndsMinute_of_optionalInstant _ _ _ hstop _ rfl⟩
      · cases hw
    · cases h
    · cases h

/-! ## Assertions -/

namespace Assertion

/-- Both protocols put an assertion together from its parts in the end. -/
theorem exists_of_stamped (e : Element) (name : String) (o : Option Element)
    (f : String → Instant → Option Validity → Option SignatureRecord → Assertion) (a : Assertion)
    (h : (do
      let id ← required e name
      let issued ← required e "IssueInstant"
      let time ← readInstant issued
      let validity ← readValidity o
      let signature ← signatureOf e
      return f id time validity signature) = Except.ok a) :
    ∃ id time validity signature, a = f id time validity signature ∧ time.LeapEndsMinute ∧
      ∀ v ∈ validity, v.EachInstant Instant.LeapEndsMinute := by
  obtain ⟨id, -, h⟩ := (bind_eq_ok ..).1 h
  obtain ⟨issued, -, h⟩ := (bind_eq_ok ..).1 h
  obtain ⟨time, htime, h⟩ := (bind_eq_ok ..).1 h
  obtain ⟨validity, hvalidity, h⟩ := (bind_eq_ok ..).1 h
  obtain ⟨signature, -, h⟩ := (bind_eq_ok ..).1 h
  exact ⟨id, time, validity, signature, (Except.ok.inj h).symm,
    Saml.leapEndsMinute_of_read _ _ htime, Validity.leapEndsMinute_of_read _ _ hvalidity⟩

theorem of_read20 (e : Element) (a : Assertion) (h : readAssertion20 e = .ok a) :
    a.protocol = .saml20 ∧ a.EachInstant Instant.LeapEndsMinute := by
  obtain ⟨version, -, h⟩ := (bind_eq_ok ..).1 h
  split at h
  · cases h
  · obtain ⟨attributes, -, h⟩ := (bind_eq_ok ..).1 h
    obtain ⟨_, _, _, _, rfl, htime, hvalidity⟩ :=
      exists_of_stamped e "ID" (e.child? "Conditions") _ a h
    exact ⟨rfl, htime, hvalidity⟩

/-- A reader of SAML 1.1 takes the method that says nothing for none. -/
theorem of_read11 (e : Element) (a : Assertion) (h : readAssertion11 e = .ok a) :
    a.protocol = .saml11 ∧ a.authnContextClass ≠ some unspecifiedMethod11 ∧
      a.EachInstant Instant.LeapEndsMinute := by
  obtain ⟨major, -, h⟩ := (bind_eq_ok ..).1 h
  obtain ⟨minor, -, h⟩ := (bind_eq_ok ..).1 h
  split at h
  · cases h
  · obtain ⟨attributes, -, h⟩ := (bind_eq_ok ..).1 h
    obtain ⟨_, _, _, _, rfl, htime, hvalidity⟩ :=
      exists_of_stamped e "AssertionID" (e.child? "Conditions") _ a h
    refine ⟨rfl, fun hcontext => ?_, htime, hvalidity⟩
    have hmethod := (Option.filter_eq_some_iff.1 hcontext).2
    simp at hmethod

theorem leapEndsMinute_of_read (e : Element) (a : Assertion) (h : readAssertion e = .ok a) :
    a.EachInstant Instant.LeapEndsMinute := by
  unfold readAssertion at h
  split at h
  · exact (of_read20 e a h).2
  · split at h
    · exact (of_read11 e a h).2.2
    · cases h

end Assertion

/-! ## Responses -/

namespace Payload

theorem of_read20 (e : Element) (o : Option Payload) (h : readPayload20 e = .ok o) :
    ∀ p ∈ o, (∃ child a, readAssertion20 child = .ok a ∧ p = .plain a) ∨ ∃ x, p = .encrypted x := by
  rintro p rfl
  unfold readPayload20 at h
  split at h
  · obtain ⟨a, ha, h⟩ := (map_eq_ok ..).1 h
    exact Or.inl ⟨_, a, ha, (Option.some.inj h).symm⟩
  · obtain ⟨x, -, h⟩ := (map_eq_ok ..).1 h
    exact Or.inr ⟨x, (Option.some.inj h).symm⟩
  · cases h

theorem of_read11 (child : Option Element) (o : Option Payload)
    (h : readOptional (fun a => Payload.plain <$> readAssertion11 a) child = .ok o) :
    ∀ p ∈ o, ∃ e a, readAssertion11 e = .ok a ∧ p = .plain a := by
  rintro p rfl
  cases child with
  | none => cases h
  | some e =>
    obtain ⟨q, hq, h⟩ := (map_eq_ok ..).1 h
    obtain ⟨a, ha, rfl⟩ := (map_eq_ok ..).1 hq
    exact ⟨e, a, ha, (Option.some.inj h).symm⟩

end Payload

namespace Response

theorem exists_of_stamped (e : Element) (name : String)
    (f : String → Instant → Status → Option SignatureRecord → Response) (r : Response)
    (h : (do
      let id ← required e name
      let issued ← required e "IssueInstant"
      let time ← readInstant issued
      let status ← readStatus e
      let signature ← signatureOf e
      return f id time status signature) = Except.ok r) :
    ∃ id time value signature, r = f id time (Status.ofValue value) signature ∧
      time.LeapEndsMinute := by
  obtain ⟨id, -, h⟩ := (bind_eq_ok ..).1 h
  obtain ⟨issued, -, h⟩ := (bind_eq_ok ..).1 h
  obtain ⟨time, htime, h⟩ := (bind_eq_ok ..).1 h
  obtain ⟨status, hstatus, h⟩ := (bind_eq_ok ..).1 h
  obtain ⟨signature, -, h⟩ := (bind_eq_ok ..).1 h
  unfold readStatus at hstatus
  split at hstatus
  · next value _ =>
    rw [← Except.ok.inj hstatus] at h
    have hleap := Saml.leapEndsMinute_of_read _ _ htime
    exact ⟨id, time, value, signature, (Except.ok.inj h).symm, hleap⟩
  · cases hstatus

theorem of_read20 (e : Element) (r : Response) (h : readResponse20 e = .ok r) :
    r.protocol = .saml20 ∧ (∃ value, r.status = Status.ofValue value) ∧
      r.issueInstant.LeapEndsMinute ∧ readPayload20 e = .ok r.payload := by
  obtain ⟨version, -, h⟩ := (bind_eq_ok ..).1 h
  split at h
  · cases h
  · obtain ⟨payload, hpayload, h⟩ := (bind_eq_ok ..).1 h
    obtain ⟨_, _, value, _, rfl, htime⟩ := exists_of_stamped e "ID" _ r h
    exact ⟨rfl, ⟨value, rfl⟩, htime, hpayload⟩

theorem of_read11 (e : Element) (r : Response) (h : readResponse11 e = .ok r) :
    r.protocol = .saml11 ∧ r.issuer = none ∧ (∃ value, r.status = Status.ofValue value) ∧
      r.issueInstant.LeapEndsMinute ∧
      readOptional (fun a => Payload.plain <$> readAssertion11 a)
        (e.childIn? Ns.assertion11 "Assertion") = .ok r.payload := by
  obtain ⟨major, -, h⟩ := (bind_eq_ok ..).1 h
  split at h
  · cases h
  · obtain ⟨payload, hpayload, h⟩ := (bind_eq_ok ..).1 h
    obtain ⟨_, _, value, _, rfl, htime⟩ := exists_of_stamped e "ResponseID" _ r h
    exact ⟨rfl, rfl, ⟨value, rfl⟩, htime, hpayload⟩

theorem leapEndsMinute_of_read (e : Element) (r : Response) (h : readResponse e = .ok r) :
    r.EachInstant Instant.LeapEndsMinute := by
  unfold readResponse at h
  split at h
  · obtain ⟨-, -, hissued, hpayload⟩ := of_read20 e r h
    refine ⟨hissued, fun p hp => ?_⟩
    obtain ⟨_, a, ha, rfl⟩ | ⟨x, rfl⟩ := Payload.of_read20 e _ hpayload p hp
    · exact (Assertion.of_read20 _ a ha).2
    · trivial
  · split at h
    · obtain ⟨-, -, -, hissued, hpayload⟩ := of_read11 e r h
      refine ⟨hissued, fun p hp => ?_⟩
      obtain ⟨_, a, ha, rfl⟩ := Payload.of_read11 _ _ hpayload p hp
      exact (Assertion.of_read11 _ a ha).2.2
    · cases h

end Response

end Federation.Saml
