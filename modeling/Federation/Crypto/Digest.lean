import Federation.Crypto.Algorithm
import Federation.Crypto.Digest.Sha1
import Federation.Crypto.Digest.Sha2

/-!
# Digests

The digest of a byte string under each of the algorithms that messages may name.
-/

namespace Federation.Crypto

/-- The digest of a message. -/
def DigestAlgorithm.digest : DigestAlgorithm → Bytes → Bytes
  | sha256 => Digest.Sha2.sha256
  | sha384 => Digest.Sha2.sha384
  | sha512 => Digest.Sha2.sha512

theorem DigestAlgorithm.length_digest (a : DigestAlgorithm) (message : Bytes) :
    (a.digest message).length = a.size := by
  cases a <;> simp [digest, size, Digest.Sha2.sha256, Digest.Sha2.sha384, Digest.Sha2.sha512,
    Digest.Sha2.Family.length_digest]

end Federation.Crypto
