import Federation.Crypto.Digest
import Federation.Crypto.Modular

/-!
# RSA

Signatures with the padding of PKCS #1 version 1.5 and key transport with OAEP. Both write a padded
message of the length of the modulus and raise it to an exponent; what differs is the padding.

    (m ^ e) ^ d ≡ m, so unwrap key (wrap key.publicKey m) = some m
-/

namespace Federation.Crypto.Rsa

/-! ## Keys -/

structure PublicKey where
  modulus : Nat
  exponent : Nat
deriving DecidableEq, Repr

structure PrivateKey where
  publicKey : PublicKey
  secret : Nat
deriving DecidableEq, Repr

namespace PublicKey

def bits (k : PublicKey) : Nat := if k.modulus = 0 then 0 else k.modulus.log2 + 1

/-- The length of the modulus in bytes, which is that of signatures and wrapped keys. -/
def size (k : PublicKey) : Nat := Bytes.widthOf k.modulus

/-- Keys that are neither too weak nor too large to be used. -/
def usable (k : PublicKey) : Bool :=
  2048 ≤ k.bits && k.bits ≤ 8192 && k.modulus % 2 = 1
    && k.exponent % 2 = 1 && 3 ≤ k.exponent && k.exponent < 2 ^ 33

def apply (k : PublicKey) (m : Bytes) : Bytes :=
  Bytes.ofNat k.size (Modular.power m.toNat k.exponent k.modulus)

end PublicKey

def PrivateKey.apply (k : PrivateKey) (m : Bytes) : Bytes :=
  Bytes.ofNat k.publicKey.size (Modular.power m.toNat k.secret k.publicKey.modulus)

/-! ## Signatures -/

/-- What stands before a digest to say which one it is. -/
def digestHeader : DigestAlgorithm → Bytes
  | .sha256 => [0x30, 0x31, 0x30, 0x0D, 0x06, 0x09, 0x60, 0x86, 0x48, 0x01, 0x65, 0x03, 0x04, 0x02,
      0x01, 0x05, 0x00, 0x04, 0x20]
  | .sha384 => [0x30, 0x41, 0x30, 0x0D, 0x06, 0x09, 0x60, 0x86, 0x48, 0x01, 0x65, 0x03, 0x04, 0x02,
      0x02, 0x05, 0x00, 0x04, 0x30]
  | .sha512 => [0x30, 0x51, 0x30, 0x0D, 0x06, 0x09, 0x60, 0x86, 0x48, 0x01, 0x65, 0x03, 0x04, 0x02,
      0x03, 0x05, 0x00, 0x04, 0x40]

/-- The padded digest of a message, `size` bytes long. -/
def paddedDigest (a : DigestAlgorithm) (size : Nat) (message : Bytes) : Bytes :=
  let body := digestHeader a ++ a.digest message
  [0x00, 0x01] ++ List.replicate (size - 3 - body.length) 0xFF ++ 0x00 :: body

def sign (k : PrivateKey) (a : DigestAlgorithm) (message : Bytes) : Bytes :=
  k.apply (paddedDigest a k.publicKey.size message)

def verify (k : PublicKey) (a : DigestAlgorithm) (message signature : Bytes) : Bool :=
  k.usable && signature.length = k.size && signature.toNat < k.modulus
    && k.apply signature = paddedDigest a k.size message

/-! ## Key transport -/

/-- The hash that a way to wrap keys uses throughout. -/
def hashOf : KeyTransport → Bytes → Bytes
  | .rsaOaepMgf1p => Digest.sha1
  | .rsaOaep => DigestAlgorithm.sha256.digest

def hashSize : KeyTransport → Nat
  | .rsaOaepMgf1p => 20
  | .rsaOaep => 32

/-- A mask of `n` bytes grown from a seed. -/
def mask (t : KeyTransport) (seed : Bytes) (n : Nat) : Bytes :=
  ((List.range (n / hashSize t + 1)).flatMap fun i => hashOf t (seed ++ Bytes.ofNat 4 i)).take n

/-- Wraps a key with a random seed; fails if the key is too long for the modulus. -/
def wrap? (k : PublicKey) (t : KeyTransport) (seed key : Bytes) : Option Bytes :=
  let h := hashSize t
  if key.length + 2 * h + 2 ≤ k.size then
    let block := hashOf t [] ++ List.replicate (k.size - key.length - 2 * h - 2) 0 ++ 0x01 :: key
    let masked := Bytes.xor block (mask t seed (k.size - h - 1))
    some (k.apply (0x00 :: Bytes.xor seed (mask t masked h) ++ masked))
  else none

/-- The key behind the label, zeros and the mark that ends them. -/
def afterMark (t : KeyTransport) (block : Bytes) : Option Bytes :=
  if block.take (hashSize t) = hashOf t [] then
    match (block.drop (hashSize t)).dropWhile (· = 0) with
    | 0x01 :: key => some key
    | _ => none
  else none

/-- The key that was wrapped, if the padding is right throughout. -/
def unwrap? (k : PrivateKey) (t : KeyTransport) (wrapped : Bytes) : Option Bytes :=
  let h := hashSize t
  let n := k.publicKey.size
  if wrapped.length = n ∧ wrapped.toNat < k.publicKey.modulus ∧ 2 * h + 2 ≤ n then
    match k.apply wrapped with
    | 0x00 :: rest =>
      let masked := rest.drop h
      let seed := Bytes.xor (rest.take h) (mask t masked h)
      afterMark t (Bytes.xor masked (mask t seed (n - h - 1)))
    | _ => none
  else none

end Federation.Crypto.Rsa
