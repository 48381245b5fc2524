import Federation.Crypto.Random
import Federation.Crypto.Suite

/-!
# Envelopes

A text encrypted under a fresh session key, with that key wrapped for the recipient. Opening one
never tells which step failed: a session key that cannot be unwrapped is replaced by a random one of
the right length, and the text is decrypted all the same.
-/

namespace Federation.Crypto

/-- An encrypted text with its wrapped session key. -/
structure Envelope where
  transport : KeyTransport
  wrappedKey : Bytes
  encryption : DataEncryption
  /-- The nonce, the encrypted text and its tag. -/
  message : Bytes
deriving DecidableEq, Repr

namespace Envelope

/-- Encrypts a text for a recipient. -/
def encrypt (suite : Suite) (random : Random) (recipient : PublicCredential)
    (transport : KeyTransport) (encryption : DataEncryption) (text : Bytes) :
    Except Failure Envelope := do
  let key := random.bytes .sessionKey encryption.keySize
  let message ← suite.protect encryption key (random.bytes .nonce Gcm.nonceSize) text
  let wrappedKey ← suite.wrap recipient transport
    (random.bytes .wrapping (Rsa.hashSize transport)) key
  return { transport, wrappedKey, encryption, message }

/-- The session key to decrypt with: the unwrapped one, or the substitute if that cannot serve. -/
def sessionKey (suite : Suite) (random : Random) (recipient : PrivateCredential) (e : Envelope) :
    Bytes :=
  match suite.unwrap recipient e.transport e.wrappedKey with
  | some key =>
    if key.length = e.encryption.keySize then key
    else random.bytes .substitute e.encryption.keySize
  | none => random.bytes .substitute e.encryption.keySize

/-- The text of an envelope. -/
def decrypt (suite : Suite) (random : Random) (recipient : PrivateCredential) (e : Envelope) :
    Except Failure Bytes :=
  suite.opened e.encryption (e.sessionKey suite random recipient) e.message

theorem length_sessionKey (suite : Suite) (random : Random) (recipient : PrivateCredential)
    (e : Envelope) :
    (e.sessionKey suite random recipient).length = e.encryption.keySize := by
  unfold sessionKey
  split
  · split
    · assumption
    · simp
  · simp

end Envelope

end Federation.Crypto
