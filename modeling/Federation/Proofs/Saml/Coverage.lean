import Federation.Proofs.Bytes
import Federation.Proofs.Crypto.Generation
import Federation.Proofs.Saml.Responses
import Federation.Proofs.Saml.Signing
import Federation.Proofs.Time.Order

/-!
# What a signature covers

A signature covers the whole object: the canonical text of an object fixes everything in it but its
own signature. Only of instants within a leap second the text fixes no more than what a clock shows,
so leap seconds are taken to end minutes.

    a.canonicalText = b.canonicalText  →  a.covered = b.covered

So a signature that is moved to an object with anything else in it never verifies there, unless the
digest takes both texts to one value (`Collides`).
-/

namespace Federation.Saml

open Federation.Xml
open Federation.Time (Instant)
open Federation.Crypto (Suite PrivateCredential SignatureAlgorithm DigestAlgorithm)

/-! ## Texts -/

/-- All of an assertion that its text tells, without its signature. -/
def Assertion.covered (a : Assertion) : Assertion := normal { a with signature := none }

/-- All of a response that its text tells, without its signature. The assertion in it keeps its
own. -/
def Response.covered (r : Response) : Response := normal { r with signature := none }

theorem Assertion.covered_eq (a b : Assertion) (ha : a.EachInstant Instant.LeapEndsMinute)
    (hb : b.EachInstant Instant.LeapEndsMinute) (h : a.canonicalText = b.canonicalText) :
    a.covered = b.covered :=
  node_inj [] a none ha b hb none
    (element_eq_of_canonical _ _ (a.readable_node 58 [] none) (b.readable_node 58 [] none) h)

theorem Response.covered_eq (q r : Response) (hq : q.EachInstant Instant.LeapEndsMinute)
    (hr : r.EachInstant Instant.LeapEndsMinute) (text : String)
    (hqtext : q.canonicalText = .ok text) (hrtext : r.canonicalText = .ok text) :
    q.covered = r.covered := by
  obtain ⟨m, hm, hmtext⟩ := (map_eq_ok ..).1 hqtext
  obtain ⟨n, hn, hntext⟩ := (map_eq_ok ..).1 hrtext
  exact node_inj [] q none m hm hq r hr none n hn
    (element_eq_of_canonical _ _ (q.readable_node 57 [] none m hm) (r.readable_node 57 [] none n hn)
      (hmtext.trans hntext.symm))

theorem Response.canonicalText_ne (r : Response) (a : Assertion) :
    r.canonicalText ≠ .ok a.canonicalText := by
  intro h
  obtain ⟨n, hn, htext⟩ := (map_eq_ok ..).1 h
  have helement := element_eq_of_canonical _ _ (r.readable_node 57 [] none n hn)
    (a.readable_node 58 [] none) htext
  have hname := r.name_node [] none n hn
  rw [helement, Payload.name_plain] at hname
  revert hname
  decide

/-! ## Digests -/

section
variable {α : Type} [Signable α] (suite : Suite) (t t' : α)

/-- The object was signed, or it passes for signed. -/
def Signed : Prop :=
  (∃ target c, sign suite target c = .ok t) ∨ ∃ anchor, validate suite t anchor = .ok true

/-- The digest of the first object's signature takes different texts of both to one value. -/
def Collides : Prop :=
  ∃ s digest text text', Signable.signature? t = some s ∧
    DigestAlgorithm.ofUri? s.digestAlgorithm = some digest ∧
    Signable.canonicalText t = .ok text ∧ Signable.canonicalText t' = .ok text' ∧
    text ≠ text' ∧
    suite.digest digest (Bytes.ofText text) = suite.digest digest (Bytes.ofText text')

/-- The record in a signed object holds the digest of the object's text. -/
theorem Signed.digest [LawfulSignable α] (h : Signed suite t) :
    ∃ s digest text, Signable.signature? t = some s ∧
      DigestAlgorithm.ofUri? s.digestAlgorithm = some digest ∧
      Signable.canonicalText t = .ok text ∧
      suite.digest digest (Bytes.ofText text) = s.digestValue := by
  rcases h with ⟨target, c, h⟩ | ⟨anchor, h⟩
  · obtain ⟨text, value, htext, -, rfl⟩ := (sign_eq_ok ..).1 h
    exact ⟨_, _, text, LawfulSignable.signature?_attach .., digestAlgorithm_ofUri?_uri _,
      (LawfulSignable.canonicalText_attach ..).trans htext, rfl⟩
  · obtain ⟨s, hs, _, _, _, _, hverifies⟩ := (validate_eq_ok_true ..).1 h
    obtain ⟨-, digest, text, -, hdigest, htext, hvalue, -⟩ := hverifies.covers
    exact ⟨s, digest, text, hs, hdigest, htext, hvalue⟩

/-- A signature that verifies on another object finds the same text there. -/
theorem canonicalText_eq_of_validate [LawfulSignable α] (hsigned : Signed suite t)
    (hrecord : Signable.signature? t' = Signable.signature? t) (hcollides : ¬ Collides suite t t')
    (anchor : Anchor) (h : validate suite t' anchor = .ok true) :
    ∃ text, Signable.canonicalText t = .ok text ∧ Signable.canonicalText t' = .ok text := by
  obtain ⟨s, digest, text, hs, hdigest, htext, hvalue⟩ := hsigned.digest
  obtain ⟨s', hs', _, _, _, _, hverifies⟩ := (validate_eq_ok_true ..).1 h
  obtain ⟨-, digest', text', -, hdigest', htext', hvalue', -⟩ := hverifies.covers
  rw [hrecord, hs, Option.some.injEq] at hs'
  subst hs'
  rw [hdigest, Option.some.injEq] at hdigest'
  subst hdigest'
  by_cases htexts : text = text'
  · exact ⟨text, htext, htexts ▸ htext'⟩
  · exact absurd ⟨s, digest, text, text', hs, hdigest, htext, htext', htexts,
      hvalue.trans hvalue'.symm⟩ hcollides

end

/-! ## Main result -/

def sampleAssertion : Assertion where
  id := "_a"
  protocol := .saml11
  issueInstant := .sample 0
  issuer := some "idp"
  subject := some (Subject.bearer "user" .saml11)

/-- The sample assertion, with a signature that no key made. -/
def sampleSigned : Assertion :=
  { sampleAssertion with
    signature := some
      { algorithm := SignatureAlgorithm.rsaSha256.uri, canonicalization := exclusiveCanonicalization
        referenceUri := "#_a", digestAlgorithm := DigestAlgorithm.sha256.uri, digestValue := []
        signatureValue := [1], keyInfo := none } }

def sampleResponse : Response where
  id := "_r"
  protocol := .saml11
  issueInstant := .sample 0
  payload := some (.plain sampleSigned)

/-- The standard suite with digests that keep everything, so that none collide. -/
def sampleSuite : Suite := { Suite.standard with digest := fun _ b => b }

theorem not_collides_sampleSuite {α : Type} [Signable α] (t t' : α) :
    ¬ Collides sampleSuite t t' := by
  rintro ⟨s, digest, text, text', -, -, -, -, hne, h⟩
  exact hne (Bytes.ofText_inj text text' h)

/-- The text of an object fixes what a signature covers of it and which kind of object it is, so no
signature verifies on an object that differs from the signed one in what it covers. In both objects
leap seconds end minutes. -/
theorem canonicalText_covers (suite : Suite) :
    (∀ a b : Assertion, a.EachInstant Instant.LeapEndsMinute →
      b.EachInstant Instant.LeapEndsMinute →
        (a.canonicalText = b.canonicalText → a.covered = b.covered) ∧
        (Signed suite a → b.signature = a.signature → b.covered ≠ a.covered →
          ¬ Collides suite a b → ∀ anchor, validate suite b anchor ≠ .ok true)) ∧
      (∀ q r : Response, q.EachInstant Instant.LeapEndsMinute →
        r.EachInstant Instant.LeapEndsMinute →
          (∀ text : String, q.canonicalText = .ok text → r.canonicalText = .ok text →
            q.covered = r.covered) ∧
          (Signed suite q → r.signature = q.signature → r.covered ≠ q.covered →
            ¬ Collides suite q r → ∀ anchor, validate suite r anchor ≠ .ok true)) ∧
      ∀ (r : Response) (a : Assertion), r.canonicalText ≠ .ok a.canonicalText := by
  refine ⟨fun a b ha hb => ⟨a.covered_eq b ha hb, ?_⟩,
    fun q r hq hr => ⟨q.covered_eq r hq hr, ?_⟩, Response.canonicalText_ne⟩
  · intro hsigned hrecord hdiffers hcollides anchor h
    obtain ⟨text, hatext, hbtext⟩ :=
      canonicalText_eq_of_validate suite a b hsigned hrecord hcollides anchor h
    exact hdiffers
      (b.covered_eq a hb ha ((Except.ok.inj hbtext).trans (Except.ok.inj hatext).symm))
  · intro hsigned hrecord hdiffers hcollides anchor h
    obtain ⟨text, hqtext, hrtext⟩ :=
      canonicalText_eq_of_validate suite q r hsigned hrecord hcollides anchor h
    exact hdiffers (r.covered_eq q hr hq text hrtext hqtext)

/-- The context class that says nothing and the issuer of the response are not told; another issuer
of the signed assertion, or a signature taken off the one in the signed response, is. -/
theorem canonicalText_covers_sample :
    ({ sampleAssertion with authnContextClass := some unspecifiedMethod11 } : Assertion).covered
        = sampleAssertion.covered ∧
      ({ sampleResponse with issuer := some "idp" } : Response).covered
        = sampleResponse.covered ∧
      (∃ s, sign sampleSuite sampleAssertion .sampleSigner
          = .ok { sampleAssertion with signature := some s } ∧
        ∀ anchor, validate sampleSuite
          ({ sampleAssertion with issuer := some "other", signature := some s } : Assertion) anchor
            ≠ .ok true) ∧
      ∃ s, sign sampleSuite sampleResponse .sampleSigner
          = .ok { sampleResponse with signature := some s } ∧
        ∀ anchor, validate sampleSuite
          ({ sampleResponse with
              payload := some (.plain sampleAssertion), signature := some s } : Response) anchor
            ≠ .ok true := by
  obtain ⟨hassertions, hresponses, -⟩ := canonicalText_covers sampleSuite
  have hsign := Suite.sign_standard _ _ PrivateCredential.sound_sampleSigner
  have hbegin : (Instant.sample 0).LeapEndsMinute := by decide
  -- every assertion here has this one instant, and no window
  have hplain (a : Assertion) (ha : a.issueInstant = .sample 0) (hwindow : a.validity = none) :
      a.EachInstant Instant.LeapEndsMinute := by
    refine ⟨ha ▸ hbegin, fun v hv => ?_⟩
    rw [hwindow] at hv
    cases hv
  have hcarried (r : Response) (a : Assertion) (hr : r.issueInstant = .sample 0)
      (hpayload : r.payload = some (.plain a)) (ha : a.EachInstant Instant.LeapEndsMinute) :
      r.EachInstant Instant.LeapEndsMinute := by
    refine ⟨hr ▸ hbegin, fun p hp => ?_⟩
    rw [hpayload] at hp
    cases hp
    exact ha
  refine ⟨(hassertions _ _ (hplain _ rfl rfl) (hplain _ rfl rfl)).1 rfl,
    (hresponses _ _ (hcarried _ sampleSigned rfl rfl (hplain _ rfl rfl))
      (hcarried _ sampleSigned rfl rfl (hplain _ rfl rfl))).1 _ rfl rfl, ?_, ?_⟩
  · have hsigned := (sign_eq_ok sampleSuite sampleAssertion _ .sampleSigner).2
      ⟨_, _, rfl, hsign _, rfl⟩
    refine ⟨_, hsigned, (hassertions _ _ (hplain _ rfl rfl) (hplain _ rfl rfl)).2
      (Or.inl ⟨_, _, hsigned⟩) rfl ?_ (not_collides_sampleSuite _ _)⟩
    exact fun h => absurd (congrArg (·.issuer) h) (by decide)
  · have hsigned := (sign_eq_ok sampleSuite sampleResponse _ .sampleSigner).2
      ⟨_, _, rfl, hsign _, rfl⟩
    refine ⟨_, hsigned, (hresponses _ _ (hcarried _ sampleSigned rfl rfl (hplain _ rfl rfl))
      (hcarried _ sampleAssertion rfl rfl (hplain _ rfl rfl))).2 (Or.inl ⟨_, _, hsigned⟩) rfl ?_
      (not_collides_sampleSuite _ _)⟩
    intro h
    have hassertion := Payload.plain.inj (Option.some.inj (congrArg (·.payload) h))
    cases congrArg (·.isSigned) hassertion

end Federation.Saml
