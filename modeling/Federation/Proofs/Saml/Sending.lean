import Federation.Proofs.Saml.Coverage
import Federation.Proofs.Saml.RoundTrip

/-!
# Signed messages arrive as they were sent

Whatever can be written can be signed, and what is signed validates under the signer's key, before
it is sent and after it is read back.

    sign suite a c = ok { a with signature := some s }, and that is ValidFor suite the key of c;
    a.Representable  →  decode { a with signature := some s }.encode = ok { a with … }

A signature that was there is replaced, and one of the payload stays.

- `ValidFor` is what a receiver finds who trusts the signer, however it comes by the key.
- `exists_sign` is the part that assertions and responses share.
-/

namespace Federation.Saml

open Federation.Xml
open Federation.Crypto (Suite PublicCredential PrivateCredential)

/-! ## Validity -/

/-- The signature of an object is right for a key: under the key alone, and under any keys that were
looked up and have it among them. -/
def ValidFor {α : Type} [Signable α] (suite : Suite) (t : α) (key : PublicCredential) : Prop :=
  validate suite t (.key key) = .ok true ∧
    ∀ keys : List PublicCredential, (∃ k ∈ keys, k.sameKey key = true) →
      validate suite t (.published (.ok keys)) = .ok true

theorem validFor_of_verifies {α : Type} [Signable α] (suite : Suite) (t : α)
    (key : PublicCredential) (s : SignatureRecord) (hs : Signable.signature? t = some s)
    (h : ∀ k : PublicCredential, k.sameKey key = true → Verifies suite t s k) :
    ValidFor suite t key := by
  have hself : key.sameKey key = true := by
    unfold PublicCredential.sameKey
    simp
  constructor
  · exact (validate_eq_ok_true ..).2 ⟨s, hs, [key], rfl, key, by simp, h key hself⟩
  · rintro keys ⟨k, hk, hsame⟩
    exact (validate_eq_ok_true ..).2 ⟨s, hs, keys, rfl, k, hk, h k hsame⟩

/-- An object that has a canonical text is signed, and validly. -/
theorem exists_sign {α : Type} [Signable α] [LawfulSignable α] (suite : Suite)
    (c : PrivateCredential) (hsuite : suite.Signs c) (target : α) (text : String)
    (htext : Signable.canonicalText target = .ok text) :
    ∃ s, sign suite target c = .ok (Signable.attach target s) ∧
      ValidFor suite (Signable.attach target s) c.publicHalf := by
  obtain ⟨value, hvalue⟩ := hsuite.yields (Bytes.ofText
    (SignatureRecord.unsigned suite (referenceTo target) text c).signedText)
  have hsign := (sign_eq_ok suite target _ c).2 ⟨text, value, htext, hvalue, rfl⟩
  refine ⟨_, hsign, validFor_of_verifies _ _ _ _ (LawfulSignable.signature?_attach ..) ?_⟩
  intro k hsame
  obtain ⟨s, hs, hverifies⟩ := verifies_of_sign suite target _ c k (hsuite.pairs k hsame) hsign
  rw [LawfulSignable.signature?_attach] at hs
  cases hs
  exact hverifies

/-! ## What a signature leaves as it is -/

/-- Whether a message can be written is not up to its signature. -/
theorem Response.node_of_node (r : Response) (s t : Option SignatureRecord) (n : Node)
    (h : r.node s = .ok n) : ∃ m, r.node t = .ok m := by
  unfold node at h ⊢
  split at h
  · exact ⟨_, rfl⟩
  · cases h
  · exact ⟨_, rfl⟩

theorem Response.encode_attach (r : Response) (s : SignatureRecord) (text : String)
    (h : r.encode = .ok text) :
    ∃ sent, Response.encode { r with signature := some s } = .ok sent := by
  obtain ⟨n, hn, -⟩ := (map_eq_ok ..).1 h
  obtain ⟨m, hm⟩ := r.node_of_node r.signature (some s) n hn
  exact ⟨_, (map_eq_ok ..).2 ⟨m, hm, rfl⟩⟩

theorem Response.canonicalText_of_encode (r : Response) (text : String) (h : r.encode = .ok text) :
    ∃ text', r.canonicalText = .ok text' := by
  obtain ⟨n, hn, -⟩ := (map_eq_ok ..).1 h
  obtain ⟨m, hm⟩ := r.node_of_node r.signature none n hn
  exact ⟨_, (map_eq_ok ..).2 ⟨m, hm, rfl⟩⟩

theorem Assertion.Representable.attach {a : Assertion} (h : a.Representable) (s : SignatureRecord) :
    Assertion.Representable { a with signature := some s } :=
  ⟨⟨h.issued, h.window⟩, h.context⟩

theorem Response.Representable.attach {r : Response} (h : r.Representable) (s : SignatureRecord) :
    Response.Representable { r with signature := some s } :=
  ⟨h.issued, h.issuer, h.status, h.payload⟩

/-! ## Main result -/

/-- **Sign, send, validate.** Every assertion, and every response that has a text, is signed by a
key in place of a signature that it had, and validates for the key. If it is representable it is
read back from its text as it was signed, so it validates there too. -/
theorem sign_validates (suite : Suite) (c : PrivateCredential) (hsuite : suite.Signs c) :
    (∀ a : Assertion, ∃ s, let t : Assertion := { a with signature := some s }
      sign suite a c = .ok t ∧ ValidFor suite t c.publicHalf ∧
        (a.Representable → Assertion.decode t.encode = .ok t)) ∧
    ∀ (r : Response) (text : String), r.encode = .ok text →
      ∃ s, let t : Response := { r with signature := some s }
        sign suite r c = .ok t ∧ ValidFor suite t c.publicHalf ∧
          ∃ sent, t.encode = .ok sent ∧ (r.Representable → Response.decode sent = .ok t) := by
  constructor
  · intro a
    obtain ⟨s, hsign, hvalid⟩ := exists_sign suite c hsuite a a.canonicalText rfl
    exact ⟨s, hsign, hvalid, fun h => (h.attach s).decode_encode⟩
  · intro r text htext
    obtain ⟨canonical, hcanonical⟩ := r.canonicalText_of_encode text htext
    obtain ⟨s, hsign, hvalid⟩ := exists_sign suite c hsuite r canonical hcanonical
    obtain ⟨sent, hsent⟩ := r.encode_attach s text htext
    exact ⟨s, hsign, hvalid, sent, hsent,
      fun h => (Response.decode_encode_eq_self _ sent hsent).2 (h.attach s)⟩

/-- The sample response, with the signature that the assertion in it carries. -/
def sampleSignedResponse : Response := { sampleResponse with signature := sampleSigned.signature }

theorem representable_sampleSigned : sampleSigned.Representable where
  issued := by
    show sampleAssertion.issueInstant.Representable
    decide
  window _ h := nomatch h
  context _ h := nomatch h

theorem representable_sampleSignedResponse : sampleSignedResponse.Representable where
  issued := by
    show sampleResponse.issueInstant.Representable
    decide
  issuer _ := rfl
  status _ h := nomatch h
  payload p h := by
    cases h
    exact ⟨rfl, representable_sampleSigned⟩

/-- Both carried a signature that no key made, and the assertion in the response keeps its own. -/
theorem sign_validates_sample : Suite.standard.Signs .sampleSigner ∧
    (∃ s, sign .standard sampleSigned .sampleSigner
        = .ok { sampleSigned with signature := some s } ∧
      ValidFor .standard { sampleSigned with signature := some s }
        PrivateCredential.sampleSigner.publicHalf ∧
      Assertion.decode (Assertion.encode { sampleSigned with signature := some s })
        = .ok { sampleSigned with signature := some s }) ∧
    ∃ s, sign .standard sampleSignedResponse .sampleSigner
        = .ok { sampleSignedResponse with signature := some s } ∧
      ∃ sent, Response.encode { sampleSignedResponse with signature := some s } = .ok sent ∧
        Response.decode sent = .ok { sampleSignedResponse with signature := some s } := by
  have hsuite := PrivateCredential.signs_sampleSigner
  obtain ⟨s, hsign, hvalid, hdecode⟩ := (sign_validates .standard _ hsuite).1 sampleSigned
  obtain ⟨s', hsign', -, sent, hsent, hdecode'⟩ :=
    (sign_validates .standard _ hsuite).2 sampleSignedResponse _ rfl
  exact ⟨hsuite, ⟨s, hsign, hvalid, hdecode representable_sampleSigned⟩, s', hsign', sent, hsent,
    hdecode' representable_sampleSignedResponse⟩

end Federation.Saml
