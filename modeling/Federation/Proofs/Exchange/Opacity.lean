import Federation.Proofs.Crypto.Generation
import Federation.Proofs.Exchange.Acceptance
import Federation.Proofs.Saml.Decryption
import Federation.Proofs.Saml.Encryption

/-!
# What a failed decryption tells

A relying party that cannot decrypt an assertion tells nobody why: neither by its answer, nor by its
audit record, nor by what it remembers. Two unsigned responses that differ in their encrypted
payloads only are answered alike if both payloads are sealed for the party, at whatever stages they
fail and whichever substitute keys it draws.

    x.Sealed … e … → x.Sealed … e' … →
      p.consume s around (carrying r e) now = p.consume s around (carrying r e') now

The signature of a signed response is checked before its payload is opened, so for those the bytes
of the payload do tell.
-/

namespace Federation.Exchange

open Federation.Saml Federation.Time Federation.Metadata
open Federation.Crypto (Suite Random PrivateCredential Envelope)

/-- A response that carries this encrypted payload. -/
def carrying (r : Response) (e : EncryptedAssertion) : Response :=
  { r with payload := some (.encrypted e) }

namespace RelyingParty

/-- The record of a call names the same issuer whatever is encrypted. -/
theorem auditIssuer_carrying (r : Response) (e e' : EncryptedAssertion)
    (result : Except Failure Assertion) :
    auditIssuer (carrying r e) result = auditIssuer (carrying r e') result := by
  cases result <;> rfl

section
variable (p : RelyingParty) (suite : Suite) (x : Encrypter) (key : PrivateCredential)
  (hencrypts : p.capabilities.encrypts = .ofEncrypter suite x) (hkey : p.decryptionKey = some key)
include hencrypts hkey

theorem openPayload_sealed (random : Random) (r : Response) (e : EncryptedAssertion)
    (h : x.Sealed suite random e key p.serviceProvider.entityId) :
    p.openPayload random (carrying r e) = .error .decryption := by
  unfold openPayload carrying
  simp only [hkey, hencrypts]
  exact (x.decrypt_eq_decryption suite random e key _).2 h

/-- The checks before a sealed payload is opened do not look at it. -/
theorem examine_sealed (resolver : Resolver) (random : Random) (r : Response)
    (e : EncryptedAssertion) (hr : r.signature = none)
    (h : x.Sealed suite random e key p.serviceProvider.entityId) :
    p.examine resolver random (carrying r e) = (do
      p.checkProtocol r
      p.checkDestination r
      p.checkStatus r
      throw .decryption) := by
  have hunsigned : (carrying r e).signature.isSome = false := congrArg Option.isSome hr
  unfold examine
  rw [openPayload_sealed p suite x key hencrypts hkey random r e h, hunsigned]
  rfl

theorem consume_eq_of_sealed (s : RelyingState) (around : Surroundings) (random : Random)
    (r : Response) (e e' : EncryptedAssertion) (hr : r.signature = none)
    (he : x.Sealed suite around.random e key p.serviceProvider.entityId)
    (he' : x.Sealed suite random e' key p.serviceProvider.entityId) (now : Instant) :
    p.consume s around (carrying r e) now =
      p.consume s { around with random } (carrying r e') now := by
  have hjudge (resolver : Resolver) :
      p.judge resolver s.replay around.random (carrying r e) now around.wall =
        p.judge resolver s.replay random (carrying r e') now around.wall := by
    unfold judge
    rw [examine_sealed p suite x key hencrypts hkey resolver _ r e hr he,
      examine_sealed p suite x key hencrypts hkey resolver _ r e' hr he']
  unfold consume
  simp only [hjudge, auditIssuer_carrying r e e']

end

/-! ## Main result -/

/-- **Failures to decrypt are all one failure.** An assertion is decrypted to something else only if
it opens to a document that can be read or is refused for what it says, and then to just that. Of a
payload that is sealed, no call of a relying party tells more than that it is sealed. -/
theorem consume_sealed (suite : Suite) (x : Encrypter) :
    (∀ random e key id,
      (x.decrypt suite random e key id = .error .decryption ↔ x.Sealed suite random e key id) ∧
      ∀ root, x.Opens suite random e key id root →
        (∀ detail, readAssertion root ≠ .error (.xmlParse detail)) →
        x.decrypt suite random e key id = readAssertion root) ∧
    ∀ (p : RelyingParty) (key : PrivateCredential),
      p.capabilities.encrypts = .ofEncrypter suite x → p.decryptionKey = some key →
      ∀ (s : RelyingState) (around : Surroundings) (random : Random) (r : Response)
        (e e' : EncryptedAssertion), r.signature = none →
        x.Sealed suite around.random e key p.serviceProvider.entityId →
        x.Sealed suite random e' key p.serviceProvider.entityId →
        (∀ now, p.consume s around (carrying r e) now =
          p.consume s { around with random } (carrying r e') now) ∧
        ∀ xml xml', Response.decode xml = .ok (carrying r e) →
          Response.decode xml' = .ok (carrying r e') →
          p.consumeText s around xml = p.consumeText s { around with random } xml' := by
  refine ⟨fun random e key id => ⟨x.decrypt_eq_decryption suite random e key id,
    x.decrypt_of_reads suite random e key id⟩, ?_⟩
  intro p key hencrypts hkey s around random r e e' hr he he'
  have first := p.consume_eq_of_sealed suite x key hencrypts hkey s around random r e e' hr he he'
  refine ⟨first, fun xml xml' hxml hxml' => ?_⟩
  unfold consumeText
  simp only [hxml, hxml', first]

/-- Encrypted data without a key. -/
def sampleKeyless : EncryptedAssertion :=
  { data := { algorithm := Crypto.DataEncryption.aes128Gcm.uri, cipherValue := [1, 2, 3] } }

/-- Encrypted data with the parts of an envelope. -/
def sampleEnclosed (v : Envelope) : EncryptedAssertion :=
  { data :=
      { algorithm := v.encryption.uri, cipherValue := v.message
        keyInfo := some (.inline { algorithm := v.transport.uri, cipherValue := v.wrappedKey }) } }

theorem envelope?_sampleEnclosed (v : Envelope) (id : Option String) :
    Encrypter.envelope? {} (sampleEnclosed v) id = some v := by
  refine (Encrypter.envelope?_eq_some {} _ id v).2 ⟨_, rfl, ?_, ?_, rfl, rfl⟩
  · exact keyTransport_ofUri_uri v.transport
  · exact dataEncryption_ofUri_uri v.encryption

/-- The one has no key that could be unwrapped, and the other fails once its text is seen to be no
document. -/
theorem consume_sealed_sample :
    ∃ p v, of sampleProfile sampleMetadata (some .sampleHolder) { protocol := .saml20 }
        (.standardWith .standard {}) = .ok p ∧
      Envelope.encrypt .standard ⟨fun _ _ => 2⟩ PrivateCredential.sampleHolder.publicHalf .rsaOaep
        .aes256Gcm (Bytes.ofText "note") = .ok v ∧
      let s : RelyingState := { resolver := sampleMetadata, replay := {} }
      let around : Surroundings :=
        { wall := sampleTime, uptime := ⟨0⟩, source := .ofDocument {}, random := ⟨fun _ _ => 0⟩ }
      (p.consume s around (carrying sampleResponse sampleKeyless) sampleTime).1
        = .error .decryption ∧
      p.consume s around (carrying sampleResponse sampleKeyless) sampleTime =
        p.consume s { around with random := ⟨fun _ _ => 1⟩ }
          (carrying sampleResponse (sampleEnclosed v)) sampleTime := by
  obtain ⟨v, hv⟩ := envelope_of_seals .standard ⟨fun _ _ => 2⟩ _ .rsaOaep .aes256Gcm
    (Bytes.ofText "note") PrivateCredential.seals_sampleHolder
  refine ⟨_, v, rfl, hv, ?_⟩
  intro s around
  have hkeyless (id : Option String) :
      Encrypter.decrypt {} .standard ⟨fun _ _ => 0⟩ sampleKeyless .sampleHolder id
        = .error .decryption := by
    cases id <;> rfl
  have henclosed (id : Option String) :
      Encrypter.decrypt {} .standard ⟨fun _ _ => 1⟩ (sampleEnclosed v) .sampleHolder id
        = .error .decryption := by
    unfold Encrypter.decrypt
    simp only [envelope?_sampleEnclosed, envelope_decrypt _ _ _ _ _ _ _ hv ⟨fun _ _ => 1⟩ _
      PrivateCredential.opens_sampleHolder]
    unfold Encrypter.readText
    rw [Bytes.text?_ofText]
    rfl
  refine ⟨rfl, ?_⟩
  exact ((consume_sealed .standard {}).2 _ .sampleHolder rfl rfl s around ⟨fun _ _ => 1⟩
    sampleResponse sampleKeyless (sampleEnclosed v) rfl
    ((Encrypter.decrypt_eq_decryption ..).1 (hkeyless _))
    ((Encrypter.decrypt_eq_decryption ..).1 (henclosed _))).1 sampleTime

end RelyingParty

end Federation.Exchange
