import Federation.Crypto.Envelope
import Federation.Saml.Decode
import Federation.Saml.Encode

/-!
# Encryption of assertions

The whole text of an assertion, signature included, is encrypted under a session key, and that key
is wrapped for the recipient. Peers put the wrapped key in different places, so it is searched for
when an assertion is decrypted. Every failure to decrypt is the same failure.

- `Encrypter.encrypt` and `Encrypter.decrypt`.
- `KeySearch.find?` is the search in one place.
-/

namespace Federation.Saml

open Federation.Crypto (Suite Random PublicCredential PrivateCredential KeyTransport DataEncryption
  Envelope)

/-! ## Wrapped keys -/

/-- Where an encrypter puts the wrapped key. -/
inductive KeyPlacement
  /-- In the encrypted data. -/
  | inline
  /-- Beside the encrypted data, which refer to it. -/
  | peer
deriving DecidableEq, Repr

def KeyPlacement.name : KeyPlacement → String
  | inline => "inline"
  | peer => "peer"

/-- A place to search for the wrapped key. -/
inductive KeySearch
  /-- In the encrypted data. -/
  | inline
  /-- Where the encrypted data refer to. -/
  | retrieval
  /-- Beside the encrypted data, without a reference. -/
  | sibling
deriving DecidableEq, Repr

namespace KeySearch

def all : List KeySearch := [inline, retrieval, sibling]

def name : KeySearch → String
  | inline => "inline"
  | retrieval => "retrieval"
  | sibling => "sibling"

/-- The identifier that a reference within a document names. -/
def fragment? (uri : String) : Option String :=
  match uri.toList with
  | '#' :: rest => some (String.ofList rest)
  | _ => none

/-- The key for a recipient. -/
def byRecipient? (keys : List EncryptedKey) : Option String → Option EncryptedKey
  | some recipient => keys.find? (·.recipient == some recipient)
  | none => none

/-- The key that carries the name that the encrypted data give. -/
def byName? (keys : List EncryptedKey) : Option KeyReference → Option EncryptedKey
  | some (.keyName name) => keys.find? (·.carriedKeyName == some name)
  | _ => none

/-- The only key there is. -/
def only? : List EncryptedKey → Option EncryptedKey
  | [key] => some key
  | _ => none

/-- The key that a search in one place finds for a recipient. -/
def find? (search : KeySearch) (e : EncryptedAssertion) (recipient : Option String) :
    Option EncryptedKey :=
  match search, e.data.keyInfo with
  | inline, some (.inline key) => some key
  | retrieval, some (.retrievalMethod uri) =>
    (fragment? uri).bind fun id => e.keys.find? (·.id == some id)
  | sibling, info => (byRecipient? e.keys recipient).or ((byName? e.keys info).or (only? e.keys))
  | _, _ => none

end KeySearch

/-- The first key that one of the searches finds. -/
def findKey? (searches : List KeySearch) (e : EncryptedAssertion) (recipient : Option String) :
    Option EncryptedKey :=
  searches.findSome? (·.find? e recipient)

/-- The searches as records show them. -/
def searchesShown (searches : List KeySearch) : String :=
  "ChainingKeyResolver \x7b resolvers: " ++ toString searches.length ++ " \x7d"

/-! ## Encrypters -/

structure Encrypter where
  encryption : DataEncryption := .aes128Gcm
  placement : KeyPlacement := .inline
  searches : List KeySearch := KeySearch.all
deriving DecidableEq, Repr

namespace Encrypter

/-- The two parts of an encrypted assertion that hold or name the wrapped key. -/
def place (placement : KeyPlacement) (key : EncryptedKey) : KeyReference × List EncryptedKey :=
  match placement with
  | .inline => (.inline key, [])
  | .peer => (.retrievalMethod ("#" ++ key.id.getD ""), [key])

/-- Encrypts an assertion for the holder of a key. -/
def encrypt (x : Encrypter) (suite : Suite) (random : Random) (a : Assertion)
    (recipient : PublicCredential) (transport : String) (recipientId : Option String) :
    Except Failure EncryptedAssertion := do
  let asEncryption {α : Type} (r : Except Crypto.Failure α) : Except Failure α :=
    r.mapError fun f => .encryption f.message
  let transport ← asEncryption (KeyTransport.ofUri transport)
  let envelope ← asEncryption
    (Envelope.encrypt suite random recipient transport x.encryption (Bytes.ofText a.encode))
  let key : EncryptedKey :=
    { id := some (random.xmlId .keyId), recipient := recipientId, algorithm := transport.uri
      keyName := recipient.name, cipherValue := envelope.wrappedKey }
  let (keyInfo, keys) := place x.placement key
  return {
    data := { id := some (random.xmlId .dataId), algorithm := x.encryption.uri
              keyInfo := some keyInfo, cipherValue := envelope.message }
    keys }

/-- Reads a decrypted text; one that is not a document at all counts as not decrypted. -/
def readText (text : List UInt8) : Except Failure Assertion :=
  match Bytes.text? text with
  | none => .error .decryption
  | some s =>
    match Assertion.decode s with
    | .error (.xmlParse _) => .error .decryption
    | r => r

/-- The envelope of an encrypted assertion with the wrapped key for a recipient. -/
def envelope? (x : Encrypter) (e : EncryptedAssertion) (recipientId : Option String) :
    Option Envelope := do
  let key ← findKey? x.searches e recipientId
  let transport ← (KeyTransport.ofUri key.algorithm).toOption
  let encryption ← (DataEncryption.ofUri e.data.algorithm).toOption
  return { transport, wrappedKey := key.cipherValue, encryption, message := e.data.cipherValue }

/-- Decrypts an assertion. -/
def decrypt (x : Encrypter) (suite : Suite) (random : Random) (e : EncryptedAssertion)
    (c : PrivateCredential) (recipientId : Option String) : Except Failure Assertion :=
  match x.envelope? e recipientId with
  | none => .error .decryption
  | some envelope =>
    match envelope.decrypt suite random c with
    | .ok text => readText text
    | .error _ => .error .decryption

end Encrypter

end Federation.Saml
