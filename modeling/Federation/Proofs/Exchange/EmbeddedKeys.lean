import Federation.Proofs.Crypto.Generation
import Federation.Proofs.Exchange.Unsigned
import Federation.Proofs.Saml.Sending

/-!
# Keys that messages carry

A signature may carry the key that it was made with, and nobody has to believe it. Validation takes
keys from its anchor alone, and the key in a signature is no part of what the signature covers. So a
message whose signature carries another key, nonsense, or none at all meets the same checks with
the same outcomes.

    validate suite (rekeyed target k) anchor = validate suite target anchor
    p.consume s around (rekeyed r k) now = p.consume s around r now

The signature of a response covers that of the assertion in it, its key included. An assertion can
be given another key only in a response without a signature.
-/

namespace Federation.Saml

open Federation.Crypto (Suite)

/-! ## Signatures -/

section
variable {α : Type} [Signable α]

/-- The object with another key in its signature, if it has one. -/
def rekeyed (target : α) (k : Option SignatureKey) : α :=
  match Signable.signature? target with
  | some s => Signable.attach target { s with keyInfo := k }
  | none => target

/-- Nothing that validation reads of a signature is the key in it. -/
theorem validate_rekeyed [LawfulSignable α] (suite : Suite) (target : α) (k : Option SignatureKey)
    (anchor : Anchor) :
    validate suite (rekeyed target k) anchor = validate suite target anchor := by
  cases hs : Signable.signature? target with
  | none => simp only [rekeyed, hs]
  | some s =>
    have hreference (t : SignatureRecord) : referenceTo (Signable.attach target t)
        = referenceTo target := congrArg ("#" ++ ·) (LawfulSignable.id_attach target t)
    simp only [rekeyed, hs, validate, inspect, LawfulSignable.signature?_attach, hreference,
      LawfulSignable.canonicalText_attach]
    -- the checks are the same one by one, and the verdicts differ at most in what they remark on
    show Verdict.valid <$> (s.algorithms (referenceTo target) >>= _) = _
    cases s.algorithms (referenceTo target) with
    | error f => rfl
    | ok algorithms =>
      cases anchor with
      | error f => rfl
      | ok keys =>
        simp only [ok_bind]
        by_cases hempty : keys.isEmpty = true
        · simp only [if_pos hempty]
        · simp only [if_neg hempty]
          cases Signable.canonicalText target with
          | error f => rfl
          | ok text => rfl

end

namespace Assertion

theorem rekeyed_eq (a : Assertion) (k : Option SignatureKey) :
    rekeyed a k = { a with signature := a.signature.map ({ · with keyInfo := k }) } := by
  cases a with
  | mk _ _ _ _ _ _ _ _ signature => cases signature <;> rfl

theorem issuer_rekeyed (a : Assertion) (k : Option SignatureKey) :
    (rekeyed a k).issuer = a.issuer := by
  rw [a.rekeyed_eq]

end Assertion

namespace Response

theorem rekeyed_eq (r : Response) (k : Option SignatureKey) :
    rekeyed r k = { r with signature := r.signature.map ({ · with keyInfo := k }) } := by
  cases r with
  | mk _ _ _ _ _ _ _ _ signature => cases signature <;> rfl

end Response

end Federation.Saml

namespace Federation.Exchange

open Federation.Saml Federation.Time Federation.Metadata
open Federation.Crypto (Suite Random PublicCredential PrivateCredential)

/-- A response that carries this assertion as it is. -/
def holding (r : Response) (a : Assertion) : Response := { r with payload := some (.plain a) }

/-! ## Lifecycle -/

/-- The lifecycle of an assertion has nothing to do with its signature. -/
theorem Validator.validate_rekeyed (v : Validator) (r : Resolver) (s : ReplayStore) (a : Assertion)
    (k : Option SignatureKey) (now wall : Instant) :
    v.validate r s (rekeyed a k) now wall = v.validate r s a now wall := by
  rw [a.rekeyed_eq]
  rfl

namespace RelyingParty

section
variable (p : RelyingParty) (suite : Suite) (hsigns : p.capabilities.signs = .standard suite)
  (k : Option SignatureKey)
include hsigns

/-! ## The key of a response -/

theorem examine_rekeyed (resolver : Resolver) (random : Random) (r : Response) :
    p.examine resolver random (rekeyed r k) = p.examine resolver random r := by
  have hvalidate : p.capabilities.signs.validateResponse (rekeyed r k)
      = p.capabilities.signs.validateResponse r := by
    rw [hsigns]
    exact funext (validate_rekeyed suite r k)
  unfold examine
  rw [hvalidate, r.rekeyed_eq]
  cases r with
  | mk _ _ _ _ _ _ _ _ signature => cases signature <;> rfl

theorem consume_rekeyed (s : RelyingState) (around : Surroundings) (r : Response) (now : Instant) :
    p.consume s around (rekeyed r k) now = p.consume s around r now := by
  have hissuer (result : Except Failure Assertion) :
      auditIssuer (rekeyed r k) result = auditIssuer r result := by
    rw [r.rekeyed_eq]
    rfl
  simp only [consume, judge, p.examine_rekeyed suite hsigns k, hissuer]

/-! ## The key of an assertion -/

theorem checkVouched_rekeyed (resolver : Resolver) (r : Response) (a : Assertion)
    (hr : r.signature = none) :
    p.checkVouched resolver (holding r (rekeyed a k)) (rekeyed a k)
      = p.checkVouched resolver (holding r a) a := by
  have hvalidate : p.capabilities.signs.validateAssertion (rekeyed a k)
      = p.capabilities.signs.validateAssertion a := by
    rw [hsigns]
    exact funext (validate_rekeyed suite a k)
  have hunsigned (b : Assertion) : (holding r b).signature.isSome = false :=
    congrArg Option.isSome hr
  unfold checkVouched
  simp only [hvalidate, hunsigned]
  rw [a.rekeyed_eq]
  cases a with
  | mk _ _ _ _ _ _ _ _ signature => cases signature <;> rfl

omit hsigns in
/-- What an unsigned response is examined for, whatever assertion it carries. -/
theorem examine_holding (resolver : Resolver) (random : Random) (r : Response) (a : Assertion)
    (hr : r.signature = none) :
    p.examine resolver random (holding r a) = (fun _ => a) <$> (do
      p.checkProtocol r
      p.checkDestination r
      p.checkStatus r
      p.checkVouched resolver (holding r a) a) := by
  have hunsigned : (holding r a).signature.isSome = false := congrArg Option.isSome hr
  unfold examine
  rw [hunsigned]
  show _ = (do
    p.checkProtocol (holding r a)
    p.checkDestination (holding r a)
    p.checkStatus (holding r a)
    p.checkVouched resolver (holding r a) a) >>= _
  simp only [bind_assoc]
  rfl

theorem examine_rekeyed_assertion (resolver : Resolver) (random : Random) (r : Response)
    (a : Assertion) (hr : r.signature = none) :
    p.examine resolver random (holding r (rekeyed a k))
      = (rekeyed · k) <$> p.examine resolver random (holding r a) := by
  rw [p.examine_holding resolver random r _ hr, p.examine_holding resolver random r _ hr,
    p.checkVouched_rekeyed suite hsigns k resolver r a hr, Functor.map_map]

omit hsigns in
theorem eq_of_examine_holding (resolver : Resolver) (random : Random) (r : Response)
    (a b : Assertion) (hr : r.signature = none)
    (h : p.examine resolver random (holding r a) = .ok b) : b = a := by
  rw [p.examine_holding resolver random r a hr] at h
  obtain ⟨-, -, rfl⟩ := (map_eq_ok ..).1 h
  rfl

theorem judge_rekeyed_assertion (resolver : Resolver) (replay : ReplayStore) (random : Random)
    (r : Response) (a : Assertion) (now wall : Instant) (hr : r.signature = none)
    (haccept : p.capabilities.accepts.accept (rekeyed a k) = p.capabilities.accepts.accept a) :
    p.judge resolver replay random (holding r (rekeyed a k)) now wall =
      ((rekeyed · k) <$> (p.judge resolver replay random (holding r a) now wall).1,
        (p.judge resolver replay random (holding r a) now wall).2) := by
  unfold judge
  rw [p.examine_rekeyed_assertion suite hsigns k resolver random r a hr]
  cases hexamine : p.examine resolver random (holding r a) with
  | error f => rfl
  | ok b =>
    -- what is believed is the assertion itself, so the acceptance is asked about no other
    rw [p.eq_of_examine_holding resolver random r a b hr hexamine]
    simp only [Functor.map, Except.map, p.validator.validate_rekeyed, haccept]
    cases p.validator.validate resolver replay a now wall with
    | mk result replay =>
      cases result with
      | error f => rfl
      | ok u => cases p.capabilities.accepts.accept a <;> rfl

theorem consume_rekeyed_assertion (s : RelyingState) (around : Surroundings) (r : Response)
    (a : Assertion) (now : Instant) (hr : r.signature = none)
    (haccept : p.capabilities.accepts.accept (rekeyed a k) = p.capabilities.accepts.accept a) :
    p.consume s around (holding r (rekeyed a k)) now =
      ((rekeyed · k) <$> (p.consume s around (holding r a) now).1,
        (p.consume s around (holding r a) now).2) := by
  have hissuer (result : Except Failure Assertion) :
      auditIssuer (holding r (rekeyed a k)) ((rekeyed · k) <$> result)
        = auditIssuer (holding r a) result := by
    cases result with
    | ok b => exact b.issuer_rekeyed k
    | error f => simp [auditIssuer, Response.effectiveIssuer, holding, a.issuer_rekeyed]
  have hevent (issuer : Option String) (result : Except Failure Assertion) :
      p.event issuer ((rekeyed · k) <$> result) = p.event issuer result := by
    cases result <;> rfl
  simp only [consume, p.judge_rekeyed_assertion suite hsigns k _ _ _ r a _ _ hr haccept, hissuer,
    hevent]

end

/-- A call answers what it judges. -/
theorem consume_fst (p : RelyingParty) (s : RelyingState) (around : Surroundings) (r : Response)
    (now : Instant) : (p.consume s around r now).1 =
      (p.judge (s.resolver.refreshIfStale around.source around.uptime).2 s.replay around.random r
        now around.wall).1 := rfl

/-! ## Main result -/

/-- **Nobody trusts the key in a signature.** Whatever key is put into a signature, validation and
the party say what they said before, remember the same, and leave the same record. What a party
answers has the new key if the signature is its own. -/
theorem consume_embedded_key (suite : Suite) (k : Option SignatureKey) :
    (∀ (a : Assertion) (anchor : Anchor),
      validate suite (rekeyed a k) anchor = validate suite a anchor) ∧
    (∀ (r : Response) (anchor : Anchor),
      validate suite (rekeyed r k) anchor = validate suite r anchor) ∧
    ∀ (p : RelyingParty), p.capabilities.signs = .standard suite →
      ∀ (s : RelyingState) (around : Surroundings) (r : Response) (now : Instant),
        p.consume s around (rekeyed r k) now = p.consume s around r now ∧
        ∀ (a : Assertion), r.signature = none →
          p.capabilities.accepts.accept (rekeyed a k) = p.capabilities.accepts.accept a →
          p.consume s around (holding r (rekeyed a k)) now =
            ((rekeyed · k) <$> (p.consume s around (holding r a) now).1,
              (p.consume s around (holding r a) now).2) := by
  refine ⟨fun a anchor => validate_rekeyed suite a k anchor,
    fun r anchor => validate_rekeyed suite r k anchor, fun p hsigns s around r now => ⟨?_, ?_⟩⟩
  · exact p.consume_rekeyed suite hsigns k s around r now
  · intro a hr haccept
    exact p.consume_rekeyed_assertion suite hsigns k s around r a now hr haccept

/-- A signed assertion is accepted with the key that made the signature in it, and with bytes in its
place that are no key at all. -/
theorem consume_embedded_key_sample :
    let metadata := metadataWith [[PrivateCredential.sampleSigner.publicHalf]]
    let s : RelyingState := { resolver := metadata, replay := {} }
    let garbled : SignatureKey := .publicKey [0]
    ∃ p a, of sampleProfile metadata none { protocol := .saml20 } (.standardWith .standard {})
        = .ok p ∧
      sign .standard sampleAssertion .sampleSigner = .ok a ∧
      (p.consume s sampleSurroundings (holding sampleResponse a) sampleTime).1 = .ok a ∧
      (p.consume s sampleSurroundings (holding sampleResponse (rekeyed a garbled)) sampleTime).1
        = .ok (rekeyed a garbled) := by
  intro metadata s garbled
  have hsigns := PrivateCredential.signs_sampleSigner
  obtain ⟨v, hsign, -⟩ := exists_sign .standard _ hsigns sampleAssertion _ rfl
  obtain ⟨v', hv, hverifies⟩ := verifies_of_sign .standard _ _ _ _
    (hsigns.pairs _ (PublicCredential.sameKey_refl _)) hsign
  cases hv
  refine ⟨_, _, rfl, hsign, ?_⟩
  rw [((consume_embedded_key .standard garbled).2.2 _ rfl s sampleSurroundings sampleResponse
    sampleTime).2 _ rfl rfl]
  refine ⟨?signed, congrArg ((rekeyed · garbled) <$> ·) ?signed⟩
  rw [consume_fst]
  refine (judge_eq_ok _ .standard Suite.verifiesByBits_standard {} rfl _ _ _ _ _ _ _).2
    ⟨⟨rfl, nofun, ?_, rfl, Or.inl rfl, ?_⟩, ?_, rfl⟩
  · rintro expected d ⟨⟩ ⟨⟩
    rfl
  · exact (signedBy_iff_credentials .standard Suite.verifiesByBits_standard _ "idp" _ _).2
      ⟨_, rfl, _, List.mem_singleton_self _, hverifies⟩
  · refine ⟨rfl, ⟨"idp", rfl, by decide, _, rfl⟩, ⟨_, rfl, ?_⟩, ⟨_, rfl, by decide⟩, ?_⟩
    · exact contains_of_within _ _ _ (by decide) (by decide)
    · rintro expected subject d ⟨⟩ ⟨⟩ ⟨⟩
      rfl

end RelyingParty

end Federation.Exchange
