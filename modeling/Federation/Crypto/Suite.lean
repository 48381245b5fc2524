import Federation.Crypto.Credential
import Federation.Crypto.Cipher.Gcm

/-!
# Suites

The cryptographic operations that messages rest on, as one value. What signs, verifies, encrypts or
decrypts a message is given a suite, so what it does can be told apart from what the algorithms do;
`Suite.standard` holds the algorithms of this library.
-/

namespace Federation.Crypto

/-- The operations on bytes and keys. -/
structure Suite where
  digest : DigestAlgorithm → Bytes → Bytes
  /-- Signs a message. -/
  sign : PrivateCredential → SignatureAlgorithm → Bytes → Except Failure Bytes
  /-- Whether a signature is the key's over the message. -/
  verify : PublicCredential → SignatureAlgorithm → (message signature : Bytes) → Bool
  /-- Encrypts a text under a session key, with a nonce. -/
  protect : DataEncryption → (key nonce text : Bytes) → Except Failure Bytes
  /-- The text of an encrypted one. -/
  reveal : DataEncryption → (key message : Bytes) → Option Bytes
  /-- Wraps a session key for a recipient, with a random seed. -/
  wrap : PublicCredential → KeyTransport → (seed key : Bytes) → Except Failure Bytes
  /-- The session key of a wrapped one. -/
  unwrap : PrivateCredential → KeyTransport → Bytes → Option Bytes

namespace Suite

/-- The text of an encrypted one; why there is none is not told. -/
def opened (suite : Suite) (a : DataEncryption) (key message : Bytes) : Except Failure Bytes :=
  match suite.reveal a key message with
  | some text => .ok text
  | none => .error .decryption

/-! ## Signatures -/

def mismatch (a : SignatureAlgorithm) (f : KeyFamily) : Failure :=
  .unsupportedAlgorithm (a.name ++ " cannot be used with a " ++ f.name ++ " key")

/-- Signs with the algorithm's digest, if the algorithm fits the key. -/
def signBytes (c : PrivateCredential) (a : SignatureAlgorithm) (message : Bytes) :
    Except Failure Bytes :=
  if !a.fits c.family then .error (mismatch a c.family)
  else
    let signature? := match c.secret with
      | .rsa k => some (Rsa.sign k a.digest message)
      | .p256 d => Ecdsa.sign? .p256 a.digest d message
      | .p384 d => Ecdsa.sign? .p384 a.digest d message
    match signature? with
    | some s => .ok s
    | none => .error (.signing "ECDSA signing failed")

/-- The RSA key that the bits of a published key hold at their front. A whole published key may
stand in its place. -/
def rsaKey? (bits : Bytes) : Option Rsa.PublicKey :=
  match Secret.readRsa? bits with
  | some (key, _) => some key
  | none => Secret.publishedRsa? bits

/-- The point in the bits of a published key, or in those of a whole one that stands in its
place. -/
def pointBits (f : KeyFamily) (bits : Bytes) : Bytes := (KeyInfo.canonical? f bits).getD bits

/-- An algorithm that does not fit the key verifies nothing. -/
def verifyBytes (c : PublicCredential) (a : SignatureAlgorithm) (message signature : Bytes) :
    Bool :=
  a.fits c.family && match c.family with
    | .rsa => (rsaKey? c.key).any fun key => Rsa.verify key a.digest message signature
    | .ecP256 => Ecdsa.verify .p256 a.digest (pointBits c.family c.key) message signature
    | .ecP384 => Ecdsa.verify .p384 a.digest (pointBits c.family c.key) message signature

/-! ## Session keys -/

/-- The nonce stands before the encrypted text and its tag. -/
def protectBytes (a : DataEncryption) (key nonce text : Bytes) : Except Failure Bytes :=
  if key.length = a.keySize then .ok (nonce ++ Gcm.encrypt key nonce text)
  else .error (.encryption "invalid session key")

def revealBytes (a : DataEncryption) (key message : Bytes) : Option Bytes :=
  if key.length = a.keySize ∧ Gcm.nonceSize + Gcm.tagSize ≤ message.length then
    Gcm.decrypt key (message.take Gcm.nonceSize) (message.drop Gcm.nonceSize)
  else none

/-- The key of a recipient that session keys are wrapped with. -/
def recipientKey (c : PublicCredential) : Except Failure Rsa.PublicKey :=
  if c.family = .rsa then
    match (Secret.publishedRsa? c.keyInfo).filter (·.usable) with
    | some key => .ok key
    | none => .error (.encryption "recipient key rejected")
  else .error (.encryption (c.family.name ++ " keys cannot wrap session keys"))

def wrapBytes (c : PublicCredential) (t : KeyTransport) (seed key : Bytes) :
    Except Failure Bytes := do
  match Rsa.wrap? (← recipientKey c) t (seed.take (Rsa.hashSize t)) key with
  | some wrapped => return wrapped
  | none => throw (.encryption "key transport failed")

/-- Any failure gives nothing. -/
def unwrapBytes (c : PrivateCredential) (t : KeyTransport) (wrapped : Bytes) : Option Bytes :=
  match c.secret with
  | .rsa k => Rsa.unwrap? k t wrapped
  | _ => none

/-- The algorithms of this library. -/
def standard : Suite where
  digest := DigestAlgorithm.digest
  sign := signBytes
  verify := verifyBytes
  protect := protectBytes
  reveal := revealBytes
  wrap := wrapBytes
  unwrap := unwrapBytes

end Suite

end Federation.Crypto
