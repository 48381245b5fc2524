import Federation.Proofs.Bytes
import Federation.Proofs.Saml.Assertions
import Federation.Proofs.Saml.Signing
import Federation.Saml.Encryption

/-!
# Decrypting what was encrypted

An assertion is encrypted under a session key, and that key is wrapped for the recipient
(`Enciphers`); if a step of this fails, encryption fails as the step does (`EncryptionFails`).

    x.encrypt suite random a recipient uri id = ok e  ↔
      ∃ t, t.uri = uri ∧ x.Enciphers suite random a recipient t id e

The holder of a recipient's key decrypts what was encrypted for the recipient, wherever the wrapped
key was put and with whichever algorithm, if the operations of the suite undo each other (`Opens`).

    x.encrypt suite random a recipient uri id = ok e  →  y.decrypt suite random' e c id' = ok a

The two encrypters need not agree: the message names its algorithms, and `y` searches every place.
-/

namespace Federation.Saml

open Federation.Crypto

/-! ## Algorithms -/

theorem keyTransport_ofUri_uri (t : KeyTransport) : KeyTransport.ofUri t.uri = .ok t := by
  cases t <;> rfl

theorem keyTransport_ofUri_eq_ok (uri : String) (t : KeyTransport) :
    KeyTransport.ofUri uri = .ok t ↔ t.uri = uri := by
  constructor
  · intro h
    unfold KeyTransport.ofUri at h
    split at h
    · next hfind =>
      cases h
      simpa using List.find?_some hfind
    · cases h
  · rintro rfl
    exact keyTransport_ofUri_uri t

theorem dataEncryption_ofUri_uri (a : DataEncryption) : DataEncryption.ofUri a.uri = .ok a := by
  cases a <;> rfl

/-! ## Envelopes -/

section
variable (suite : Suite) (random : Random) (recipient : PublicCredential) (transport : KeyTransport)
  (encryption : DataEncryption) (text : Bytes)

/-- An envelope holds what the suite makes of the text and of the session key. -/
theorem envelope_encrypt_eq_ok (e : Envelope) :
    Envelope.encrypt suite random recipient transport encryption text = .ok e ↔
      suite.protect encryption (random.bytes .sessionKey encryption.keySize)
        (random.bytes .nonce Gcm.nonceSize) text = .ok e.message ∧
      suite.wrap recipient transport (random.bytes .wrapping (Rsa.hashSize transport))
        (random.bytes .sessionKey encryption.keySize) = .ok e.wrappedKey ∧
      e.transport = transport ∧ e.encryption = encryption := by
  unfold Envelope.encrypt
  rw [bind_eq_ok]
  constructor
  · rintro ⟨message, hmessage, h⟩
    obtain ⟨wrapped, hwrapped, h⟩ := (bind_eq_ok _ _ _).1 h
    cases h
    exact ⟨hmessage, hwrapped, rfl, rfl⟩
  · obtain ⟨transport', wrapped, encryption', message⟩ := e
    rintro ⟨hmessage, hwrapped, rfl, rfl⟩
    exact ⟨message, hmessage, (bind_eq_ok _ _ _).2 ⟨wrapped, hwrapped, rfl⟩⟩

/-- Every text can be encrypted for a recipient that the suite can seal texts for. -/
theorem envelope_of_seals (hseals : suite.Seals recipient) :
    ∃ e, Envelope.encrypt suite random recipient transport encryption text = .ok e := by
  have hkey : (random.bytes .sessionKey encryption.keySize).length = encryption.keySize :=
    Random.length_bytes ..
  obtain ⟨message, hmessage⟩ := hseals.protects encryption _ (random.bytes .nonce Gcm.nonceSize)
    text hkey
  obtain ⟨wrapped, hwrapped⟩ := hseals.wraps transport encryption
    (random.bytes .wrapping (Rsa.hashSize transport)) _ hkey
  exact ⟨⟨transport, wrapped, encryption, message⟩,
    (envelope_encrypt_eq_ok ..).2 ⟨hmessage, hwrapped, rfl, rfl⟩⟩

/-- The recipient gets the text, and never needs the substitute key. -/
theorem envelope_decrypt (e : Envelope)
    (h : Envelope.encrypt suite random recipient transport encryption text = .ok e)
    (random' : Random) (c : PrivateCredential) (hopens : suite.Opens c recipient) :
    e.decrypt suite random' c = .ok text := by
  obtain ⟨transport', wrapped, encryption', message⟩ := e
  obtain ⟨hmessage, hwrapped, rfl, rfl⟩ := (envelope_encrypt_eq_ok ..).1 h
  have hkey := hopens.unwrap_wrap _ _ _ _ (Random.length_bytes ..) hwrapped
  have htext := hopens.reveal_protect _ _ _ _ _ (Random.length_bytes ..) hmessage
  unfold Envelope.decrypt Envelope.sessionKey Suite.opened
  simp only [hkey, Random.length_bytes, if_true, htext]

end

/-! ## Encrypted assertions -/

namespace Encrypter

/-- The key is found in either of the places that it is put. -/
theorem findKey?_place (placement : KeyPlacement) (key : EncryptedKey) (id : String)
    (hid : key.id = some id) (e : EncryptedAssertion) (recipient : Option String)
    (hinfo : e.data.keyInfo = some (place placement key).1)
    (hkeys : e.keys = (place placement key).2) :
    findKey? KeySearch.all e recipient = some key := by
  cases placement with
  | inline =>
    have hinline : KeySearch.find? .inline e recipient = some key := by
      unfold KeySearch.find?
      rw [hinfo]
      rfl
    unfold findKey? KeySearch.all
    rw [List.findSome?_cons, hinline]
  | peer =>
    have hinline : KeySearch.find? .inline e recipient = none := by
      unfold KeySearch.find?
      rw [hinfo]
      rfl
    have hretrieval : KeySearch.find? .retrieval e recipient = some key := by
      unfold KeySearch.find?
      rw [hinfo, hkeys]
      simp [place, KeySearch.fragment?, hid]
    unfold findKey? KeySearch.all
    rw [List.findSome?_cons, hinline, List.findSome?_cons, hretrieval]

theorem readText_ofText (a : Assertion) (ha : a.Representable) :
    readText (Bytes.ofText a.encode) = .ok a := by
  unfold readText
  rw [Bytes.text?_ofText]
  simp only [ha.decode_encode]

/-! ## What encryption answers -/

section
variable (x : Encrypter) (suite : Suite) (random : Random) (a : Assertion)
  (recipient : PublicCredential) (t : KeyTransport) (keyFor : Option String)

/-- The text of an assertion under the session key. -/
def sealText : Except Crypto.Failure (List UInt8) :=
  suite.protect x.encryption (random.bytes .sessionKey x.encryption.keySize)
    (random.bytes .nonce Gcm.nonceSize) (Bytes.ofText a.encode)

/-- The session key, wrapped for a recipient. -/
def wrapKey : Except Crypto.Failure (List UInt8) :=
  suite.wrap recipient t (random.bytes .wrapping (Rsa.hashSize t))
    (random.bytes .sessionKey x.encryption.keySize)

/-- A wrapped session key with what is said about it. -/
def wrapping (random : Random) (recipient : PublicCredential) (t : KeyTransport)
    (keyFor : Option String) (wrapped : List UInt8) : EncryptedKey where
  id := some (random.xmlId .keyId)
  recipient := keyFor
  algorithm := t.uri
  keyName := recipient.name
  cipherValue := wrapped

/-- The encrypted form of an assertion: its text under the session key, and that key wrapped for the
recipient, in the data or beside them, where they refer to it. -/
structure Enciphers (e : EncryptedAssertion) : Prop where
  id : e.data.id = some (random.xmlId .dataId)
  algorithm : e.data.algorithm = x.encryption.uri
  message : x.sealText suite random a = .ok e.data.cipherValue
  key : ∃ wrapped, x.wrapKey suite random recipient t = .ok wrapped ∧
    (x.placement = .inline → e.keys = [] ∧
      e.data.keyInfo = some (.inline (wrapping random recipient t keyFor wrapped))) ∧
    (x.placement = .peer → e.keys = [wrapping random recipient t keyFor wrapped] ∧
      e.data.keyInfo = some (.retrievalMethod ("#" ++ random.xmlId .keyId)))

/-- Why an assertion cannot be encrypted: the way to wrap session keys is not supported, or the
suite does not encrypt the text, or it does not wrap the key. -/
inductive EncryptionFails (uri : String) : Failure → Prop
  | transport (f : Crypto.Failure) (h : KeyTransport.ofUri uri = .error f) :
    EncryptionFails uri (.encryption f.message)
  | message (t : KeyTransport) (f : Crypto.Failure) (ht : t.uri = uri)
    (h : x.sealText suite random a = .error f) : EncryptionFails uri (.encryption f.message)
  | key (t : KeyTransport) (message : List UInt8) (f : Crypto.Failure) (ht : t.uri = uri)
    (hmessage : x.sealText suite random a = .ok message)
    (h : x.wrapKey suite random recipient t = .error f) :
    EncryptionFails uri (.encryption f.message)

/-- An encrypter answers the encrypted form of the assertion that it is given, and nothing else. -/
theorem encrypt_eq_ok_iff_enciphers (uri : String) (e : EncryptedAssertion) :
    x.encrypt suite random a recipient uri keyFor = .ok e ↔
      ∃ t, t.uri = uri ∧ x.Enciphers suite random a recipient t keyFor e := by
  unfold encrypt
  rw [bind_eq_ok]
  constructor
  · rintro ⟨t, ht, h⟩
    obtain ⟨envelope, henvelope, h⟩ := (bind_eq_ok _ _ _).1 h
    obtain ⟨hmessage, hwrapped, -, -⟩ :=
      (envelope_encrypt_eq_ok ..).1 ((mapError_eq_ok _ _ _).1 henvelope)
    cases h
    refine ⟨t, (keyTransport_ofUri_eq_ok _ _).1 ((mapError_eq_ok _ _ _).1 ht), rfl, rfl, hmessage,
      envelope.wrappedKey, hwrapped, ?_⟩
    cases x.placement with
    | inline => exact ⟨fun _ => ⟨rfl, rfl⟩, nofun⟩
    | peer => exact ⟨nofun, fun _ => ⟨rfl, rfl⟩⟩
  · rintro ⟨t, ht, h⟩
    obtain ⟨wrapped, hwrapped, hplaced⟩ := h.key
    refine ⟨t, (mapError_eq_ok _ _ _).2 ((keyTransport_ofUri_eq_ok _ _).2 ht),
      (bind_eq_ok _ _ _).2 ⟨⟨t, wrapped, x.encryption, e.data.cipherValue⟩,
        (mapError_eq_ok _ _ _).2
          ((envelope_encrypt_eq_ok ..).2 ⟨h.message, hwrapped, rfl, rfl⟩), ?_⟩⟩
    obtain ⟨⟨_, _, _, _⟩, _⟩ := e
    obtain ⟨rfl, rfl, -, -⟩ := h
    cases hplacement : x.placement with
    | inline =>
      obtain ⟨rfl, rfl⟩ := hplaced.1 hplacement
      rfl
    | peer =>
      obtain ⟨rfl, rfl⟩ := hplaced.2 hplacement
      rfl

theorem encrypt_of_envelope_error (uri : String) (ht : t.uri = uri) (f : Crypto.Failure)
    (h : Envelope.encrypt suite random recipient t x.encryption (Bytes.ofText a.encode)
      = .error f) :
    x.encrypt suite random a recipient uri keyFor = .error (.encryption f.message) := by
  unfold encrypt
  rw [(keyTransport_ofUri_eq_ok uri t).2 ht]
  show (Except.mapError _ (Envelope.encrypt ..) >>= _) = _
  rw [h]
  rfl

/-- Encryption fails as the first step of it does that fails. -/
theorem encrypt_eq_error (uri : String) (f : Failure)
    (h : x.EncryptionFails suite random a recipient uri f) :
    x.encrypt suite random a recipient uri keyFor = .error f := by
  cases h with
  | transport f h =>
    unfold encrypt
    rw [h]
    rfl
  | message t f ht h =>
    refine x.encrypt_of_envelope_error suite random a recipient t keyFor uri ht f ?_
    exact congrArg (· >>= _) h
  | key t message f ht hmessage h =>
    refine x.encrypt_of_envelope_error suite random a recipient t keyFor uri ht f ?_
    refine (congrArg (· >>= _) hmessage).trans ?_
    show (suite.wrap .. >>= _) = _
    exact congrArg (· >>= _) h

end

section
variable {x : Encrypter} {suite : Suite} {random : Random} {a : Assertion}
  {recipient : PublicCredential} {t : KeyTransport} {id : Option String} {e : EncryptedAssertion}
  (h : x.Enciphers suite random a recipient t id e)
include h

/-- The bytes of an encrypted assertion are those of one envelope, whose key stands in its place. -/
theorem Enciphers.placed :
    ∃ wrapped, Envelope.encrypt suite random recipient t x.encryption (Bytes.ofText a.encode)
        = .ok ⟨t, wrapped, x.encryption, e.data.cipherValue⟩ ∧
      e.data.keyInfo
        = some (place x.placement (wrapping random recipient t id wrapped)).1 ∧
      e.keys = (place x.placement (wrapping random recipient t id wrapped)).2 := by
  obtain ⟨wrapped, hwrapped, hinline, hpeer⟩ := h.key
  refine ⟨wrapped, (envelope_encrypt_eq_ok ..).2 ⟨h.message, hwrapped, rfl, rfl⟩, ?_⟩
  cases hplacement : x.placement with
  | inline => exact (hinline hplacement).symm
  | peer => exact (hpeer hplacement).symm

theorem Enciphers.envelope? (y : Encrypter) (hy : y.searches = KeySearch.all)
    (id' : Option String) :
    ∃ envelope, y.envelope? e id' = some envelope ∧
      Envelope.encrypt suite random recipient t x.encryption (Bytes.ofText a.encode)
        = .ok envelope := by
  obtain ⟨wrapped, henvelope, hinfo, hkeys⟩ := h.placed
  refine ⟨_, ?_, henvelope⟩
  unfold Encrypter.envelope?
  rw [hy, findKey?_place _ _ _ rfl _ _ hinfo hkeys, h.algorithm, dataEncryption_ofUri_uri]
  show ((KeyTransport.ofUri t.uri).toOption.bind fun transport => _) = _
  rw [keyTransport_ofUri_uri]
  rfl

/-- The holder of the recipient's key gets the assertion back. -/
theorem Enciphers.decrypt (y : Encrypter) (hy : y.searches = KeySearch.all) (random' : Random)
    (id' : Option String) (c : PrivateCredential) (hopens : suite.Opens c recipient)
    (ha : a.Representable) : y.decrypt suite random' e c id' = .ok a := by
  obtain ⟨envelope, hfound, henvelope⟩ := h.envelope? y hy id'
  unfold Encrypter.decrypt
  simp only [hfound, envelope_decrypt _ _ _ _ _ _ _ henvelope random' c hopens,
    readText_ofText a ha]

end

/-- The holder of the recipient's key gets back what was encrypted. -/
theorem decrypt_encrypt (x y : Encrypter) (suite : Suite) (random random' : Random) (a : Assertion)
    (recipient : PublicCredential) (transport : String) (id id' : Option String)
    (e : EncryptedAssertion) (hy : y.searches = KeySearch.all) (c : PrivateCredential)
    (hopens : suite.Opens c recipient) (ha : a.Representable)
    (h : x.encrypt suite random a recipient transport id = .ok e) :
    y.decrypt suite random' e c id' = .ok a := by
  obtain ⟨t, -, h⟩ := (x.encrypt_eq_ok_iff_enciphers suite random a recipient id transport e).1 h
  exact h.decrypt y hy random' id' c hopens ha

end Encrypter

end Federation.Saml
