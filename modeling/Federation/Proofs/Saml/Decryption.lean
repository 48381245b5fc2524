import Federation.Proofs.Result
import Federation.Saml.Encryption

/-!
# When an assertion cannot be decrypted

Decryption goes through many stages, and all of them fail alike. What comes out differs from that
one failure only where the encrypted text opens under the session key in use to a document that
reads as an assertion, or is refused for what it says.

    x.decrypt suite random e c id = error decryption  ↔  x.Sealed suite random e c id
    x.Opens suite random e c id root  →  (readAssertion root is no fault of XML)  →
      x.decrypt suite random e c id = readAssertion root

- `Failure.OfReading` are the failures to read an assertion; that of decryption is none of them.
- `Opens` goes through the stages from the wrapped key to the document.
-/

namespace Federation.Saml

open Federation.Xml Federation.Time
open Federation.Crypto (Suite Random PrivateCredential KeyTransport DataEncryption Envelope)

/-! ## Failures to read -/

/-- An element that is no assertion, or one whose content cannot be taken. -/
def Failure.OfReading : Failure → Prop
  | .xmlParse _ | .invalidAssertion _ | .signatureEngine _ => True
  | _ => False

theorem readInstant_failsOnly (s : String) : FailsOnly Failure.OfReading (readInstant s) := by
  unfold readInstant
  split
  · exact .ok _
  · exact .error trivial

theorem readBytes_failsOnly (s : String) : FailsOnly Failure.OfReading (readBytes s) := by
  unfold readBytes
  split
  · exact .ok _
  · exact .error trivial

theorem required_failsOnly (e : Element) (name : String) :
    FailsOnly Failure.OfReading (required e name) :=
  .mapError fun _ _ => trivial

theorem readOptional_failsOnly {α β : Type} (read : α → Except Failure β)
    (h : ∀ a, FailsOnly Failure.OfReading (read a)) (o : Option α) :
    FailsOnly Failure.OfReading (readOptional read o) := by
  cases o with
  | none => exact .ok none
  | some a => exact (h a).map some

theorem optionalInstant_failsOnly (e : Element) (name : String) :
    FailsOnly Failure.OfReading (optionalInstant e name) :=
  readOptional_failsOnly readInstant readInstant_failsOnly _

theorem validity_failsOnly (notBefore notOnOrAfter : Option Instant) :
    FailsOnly Failure.OfReading (Validity.ofBounds notBefore notOnOrAfter) := by
  unfold Validity.ofBounds Validity.of
  split
  · refine .map some ?_
    split
    · exact .ok _
    · exact .error trivial
  · exact .ok none
  · exact .error trivial

theorem readValidity_failsOnly (o : Option Element) :
    FailsOnly Failure.OfReading (readValidity o) := by
  cases o with
  | none => exact .ok none
  | some e =>
    refine (optionalInstant_failsOnly e "NotBefore").bind fun notBefore => ?_
    refine (optionalInstant_failsOnly e "NotOnOrAfter").bind fun notOnOrAfter => ?_
    exact validity_failsOnly notBefore notOnOrAfter

theorem signatureMethod_failsOnly (e : Element) (name : String) :
    FailsOnly Failure.OfReading (signatureMethod e name) := by
  unfold signatureMethod
  split
  · exact .ok _
  · exact .error trivial

theorem readSignatureKey_failsOnly (info : Element) :
    FailsOnly Failure.OfReading (readSignatureKey info) := by
  unfold readSignatureKey
  split
  · exact (readBytes_failsOnly _).map _
  · exact readOptional_failsOnly _ (fun s => (readBytes_failsOnly s).map _) _

/-- The algorithms that a signature names. -/
theorem methods_failsOnly (info target : Element) (f : String → String → String → SignatureRecord) :
    FailsOnly Failure.OfReading (do
      let algorithm ← signatureMethod info "SignatureMethod"
      let canonicalization ← signatureMethod info "CanonicalizationMethod"
      let digestAlgorithm ← signatureMethod target "DigestMethod"
      return f algorithm canonicalization digestAlgorithm) := by
  refine (signatureMethod_failsOnly info _).bind fun algorithm => ?_
  refine (signatureMethod_failsOnly info _).bind fun canonicalization => ?_
  exact (signatureMethod_failsOnly target _).bind fun digestAlgorithm => .ok _

theorem readSignature_failsOnly (e : Element) :
    FailsOnly Failure.OfReading (readSignature e) := by
  unfold readSignature
  split
  · next info _ =>
    split
    · next target _ =>
      refine (readOptional_failsOnly readBytes readBytes_failsOnly _).bind fun digest => ?_
      refine (readOptional_failsOnly readBytes readBytes_failsOnly _).bind fun value => ?_
      dsimp only
      split
      · exact (readSignatureKey_failsOnly _).bind fun key => methods_failsOnly info target _
      · exact methods_failsOnly info target _
    · exact .error trivial
  · exact .error trivial

theorem signatureOf_failsOnly (e : Element) : FailsOnly Failure.OfReading (signatureOf e) :=
  readOptional_failsOnly readSignature readSignature_failsOnly _

theorem readAttributes_failsOnly (key : String) (statements : List Element) :
    FailsOnly Failure.OfReading (readAttributes key statements) := by
  refine FailsOnly.bind (.mapM (fun e => ?_) _) fun groups => .ok _
  exact (required_failsOnly e key).bind fun name => .ok _

/-- What the two protocols read alike: an identifier, the time of issue, a window, a signature. -/
theorem readStamped_failsOnly (e : Element) (name : String) (o : Option Element)
    (f : String → Instant → Option Validity → Option SignatureRecord → Assertion) :
    FailsOnly Failure.OfReading (do
      let id ← required e name
      let issued ← required e "IssueInstant"
      let time ← readInstant issued
      let validity ← readValidity o
      let signature ← signatureOf e
      return f id time validity signature) := by
  refine (required_failsOnly e name).bind fun id => ?_
  refine (required_failsOnly e "IssueInstant").bind fun issued => ?_
  refine (readInstant_failsOnly issued).bind fun time => ?_
  refine (readValidity_failsOnly o).bind fun validity => ?_
  exact (signatureOf_failsOnly e).bind fun signature => .ok _

theorem readAssertion20_failsOnly (e : Element) :
    FailsOnly Failure.OfReading (readAssertion20 e) := by
  refine (required_failsOnly e "Version").bind fun version => ?_
  split
  · exact .error trivial
  · refine (readAttributes_failsOnly _ _).bind fun attributes => ?_
    exact readStamped_failsOnly e "ID" _ _

theorem readAssertion11_failsOnly (e : Element) :
    FailsOnly Failure.OfReading (readAssertion11 e) := by
  refine (required_failsOnly e "MajorVersion").bind fun major => ?_
  refine (required_failsOnly e "MinorVersion").bind fun minor => ?_
  split
  · exact .error trivial
  · refine (readAttributes_failsOnly _ _).bind fun attributes => ?_
    exact readStamped_failsOnly e "AssertionID" _ _

theorem readAssertion_failsOnly (e : Element) :
    FailsOnly Failure.OfReading (readAssertion e) := by
  unfold readAssertion
  split
  · exact readAssertion20_failsOnly e
  · split
    · exact readAssertion11_failsOnly e
    · exact .error trivial

namespace Encrypter

/-! ## Stages -/

/-- The session key in use: the unwrapped one if it has the right length, else the substitute. -/
def UsesKey (suite : Suite) (random : Random) (c : PrivateCredential) (transport : KeyTransport)
    (encryption : DataEncryption) (wrapped key : List UInt8) : Prop :=
  (suite.unwrap c transport wrapped = some key ∧ key.length = encryption.keySize) ∨
  ((∀ k, suite.unwrap c transport wrapped = some k → k.length ≠ encryption.keySize) ∧
    key = random.bytes .substitute encryption.keySize)

theorem usesKey_iff (suite : Suite) (random : Random) (c : PrivateCredential) (e : Envelope)
    (key : List UInt8) :
    UsesKey suite random c e.transport e.encryption e.wrappedKey key ↔
      e.sessionKey suite random c = key := by
  unfold UsesKey Envelope.sessionKey
  cases hunwrap : suite.unwrap c e.transport e.wrappedKey with
  | none => simp [eq_comm]
  | some k =>
    by_cases hlength : k.length = e.encryption.keySize
    · simp only [Option.some.injEq, forall_eq', hlength, if_true, ne_eq, not_true_eq_false,
        false_and, or_false]
      constructor
      · rintro ⟨hk, -⟩
        exact hk
      · rintro rfl
        exact ⟨rfl, hlength⟩
    · simp only [Option.some.injEq, forall_eq', hlength, if_false, ne_eq, not_false_eq_true,
        true_and]
      constructor
      · rintro (⟨rfl, h⟩ | h)
        · exact absurd h hlength
        · exact h.symm
      · intro h
        exact Or.inr h.symm

section
variable (x : Encrypter) (suite : Suite) (random : Random) (e : EncryptedAssertion)
  (c : PrivateCredential) (id : Option String)

/-- The encrypted data open to a document: a wrapped key is found, both algorithms are supported,
and what the session key in use reveals is the text of a document. -/
def Opens (root : Element) : Prop :=
  ∃ wrapped transport encryption key text document,
    findKey? x.searches e id = some wrapped ∧
    KeyTransport.ofUri wrapped.algorithm = .ok transport ∧
    DataEncryption.ofUri e.data.algorithm = .ok encryption ∧
    UsesKey suite random c transport encryption wrapped.cipherValue key ∧
    suite.reveal encryption key e.data.cipherValue = some text ∧
    Bytes.text? text = some document ∧ Element.parse document = .ok root

/-- Some stage fails: nothing opens, or what opens is not an assertion in its form. -/
def Sealed : Prop :=
  ∀ root, x.Opens suite random e c id root →
    ∃ detail, readAssertion root = .error (.xmlParse detail)

theorem envelope?_eq_some (envelope : Envelope) :
    x.envelope? e id = some envelope ↔ ∃ wrapped, findKey? x.searches e id = some wrapped ∧
      KeyTransport.ofUri wrapped.algorithm = .ok envelope.transport ∧
      DataEncryption.ofUri e.data.algorithm = .ok envelope.encryption ∧
      envelope.wrappedKey = wrapped.cipherValue ∧ envelope.message = e.data.cipherValue := by
  unfold envelope?
  cases findKey? x.searches e id with
  | none => simp
  | some wrapped =>
    cases ht : KeyTransport.ofUri wrapped.algorithm with
    | error f => simp [ht, Except.toOption]
    | ok transport =>
      cases hd : DataEncryption.ofUri e.data.algorithm with
      | error f => simp [Except.toOption]
      | ok encryption =>
        obtain ⟨t, w, d, m⟩ := envelope
        simp only [Option.bind_eq_bind, Option.bind_some, ht, Except.toOption, Option.pure_def,
          Option.some.injEq, Envelope.mk.injEq, exists_eq_left', Except.ok.injEq]
        constructor
        · rintro ⟨rfl, rfl, rfl, rfl⟩
          exact ⟨rfl, rfl, rfl, rfl⟩
        · rintro ⟨rfl, rfl, rfl, rfl⟩
          exact ⟨rfl, rfl, rfl, rfl⟩

theorem envelope_decrypt_eq_ok (envelope : Envelope) (text : List UInt8) :
    envelope.decrypt suite random c = .ok text ↔
      suite.reveal envelope.encryption (envelope.sessionKey suite random c) envelope.message
        = some text := by
  unfold Envelope.decrypt Suite.opened
  split
  · next t ht => rw [ht, Except.ok.injEq, Option.some.injEq]
  · next ht => rw [ht]; exact ⟨nofun, nofun⟩

theorem opens_iff (root : Element) :
    x.Opens suite random e c id root ↔ ∃ envelope text document,
      x.envelope? e id = some envelope ∧ envelope.decrypt suite random c = .ok text ∧
      Bytes.text? text = some document ∧ Element.parse document = .ok root := by
  simp only [envelope?_eq_some, envelope_decrypt_eq_ok]
  constructor
  · rintro ⟨wrapped, transport, encryption, key, text, document, hfound, ht, hd, hkey, htext, h⟩
    let envelope : Envelope := ⟨transport, wrapped.cipherValue, encryption, e.data.cipherValue⟩
    have hused := (usesKey_iff suite random c envelope key).1 hkey
    refine ⟨envelope, text, document, ⟨wrapped, hfound, ht, hd, rfl, rfl⟩, ?_, h⟩
    rw [hused]
    exact htext
  · rintro ⟨envelope, text, document, ⟨wrapped, hfound, ht, hd, hwrapped, hmessage⟩, htext, h⟩
    refine ⟨wrapped, envelope.transport, envelope.encryption, envelope.sessionKey suite random c,
      text, document, hfound, ht, hd, ?_, hmessage ▸ htext, h⟩
    rw [← hwrapped, usesKey_iff]

/-! ## Results of decryption -/

/-- What a root that opens is read to. -/
theorem decrypt_of_opens (root : Element) (h : x.Opens suite random e c id root) :
    x.decrypt suite random e c id =
      match readAssertion root with
      | .error (.xmlParse _) => .error .decryption
      | r => r := by
  obtain ⟨envelope, text, document, henvelope, htext, hdocument, hroot⟩ :=
    (x.opens_iff suite random e c id root).1 h
  unfold decrypt readText Assertion.decode
  simp only [henvelope, htext, hdocument, hroot]
  rfl

theorem decrypt_of_not_opens (h : ∀ root, ¬ x.Opens suite random e c id root) :
    x.decrypt suite random e c id = .error .decryption := by
  simp only [opens_iff] at h
  unfold decrypt
  cases henvelope : x.envelope? e id with
  | none => rfl
  | some envelope =>
    cases htext : envelope.decrypt suite random c with
    | error f => simp only [htext]
    | ok text =>
      simp only [htext]
      unfold readText Assertion.decode
      cases hdocument : Bytes.text? text with
      | none => rfl
      | some document =>
        cases hroot : Element.parse document with
        | error f =>
          simp only [hroot]
          rfl
        | ok root =>
          exact (h root ⟨envelope, text, document, henvelope, htext, hdocument, hroot⟩).elim

/-- An assertion that opens is answered as it is read. -/
theorem decrypt_of_reads (root : Element) (h : x.Opens suite random e c id root)
    (hreads : ∀ detail, readAssertion root ≠ .error (.xmlParse detail)) :
    x.decrypt suite random e c id = readAssertion root := by
  rw [x.decrypt_of_opens suite random e c id root h]
  split
  · next detail hread => exact absurd hread (hreads detail)
  · rfl

/-- Every other input fails the same way. -/
theorem decrypt_eq_decryption :
    x.decrypt suite random e c id = .error .decryption ↔ x.Sealed suite random e c id := by
  constructor
  · intro h root hopens
    refine Classical.byContradiction fun hreads => ?_
    rw [not_exists] at hreads
    rw [x.decrypt_of_reads suite random e c id root hopens hreads] at h
    exact readAssertion_failsOnly root .decryption h
  · intro h
    by_cases hopens : ∃ root, x.Opens suite random e c id root
    · obtain ⟨root, hopens⟩ := hopens
      obtain ⟨detail, hread⟩ := h root hopens
      rw [x.decrypt_of_opens suite random e c id root hopens, hread]
    · rw [not_exists] at hopens
      exact x.decrypt_of_not_opens suite random e c id hopens

end

end Encrypter

end Federation.Saml
