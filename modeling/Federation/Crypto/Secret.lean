import Federation.Crypto.Curve.Parameters
import Federation.Crypto.Ecdsa
import Federation.Crypto.KeyInfo
import Federation.Crypto.Rsa

/-!
# Secret keys

The keys that sign and decrypt, and their written form PKCS #8. A key is taken only if its parts fit
each other, and from its parts the published key is worked out.
-/

namespace Federation.Crypto

/-- The curve of a kind of key. -/
def KeyFamily.curve? : KeyFamily → Option Curve
  | .rsa => none
  | .ecP256 => some .p256
  | .ecP384 => some .p384

/-- A secret key. -/
inductive Secret
  | rsa (key : Rsa.PrivateKey)
  | p256 (scalar : Nat)
  | p384 (scalar : Nat)
deriving DecidableEq, Repr

namespace Secret

def family : Secret → KeyFamily
  | rsa _ => .rsa
  | p256 _ => .ecP256
  | p384 _ => .ecP384

/-! ## Published half -/

/-- The written form of an RSA public key. -/
def rsaBits (k : Rsa.PublicKey) : Bytes :=
  Der.item Der.sequence (Der.unsigned k.modulus ++ Der.unsigned k.exponent)

/-- Reads an RSA public key, and answers the bytes after it. -/
def readRsa? (b : Bytes) : Option (Rsa.PublicKey × Bytes) := do
  let (body, rest) ← Der.tagged? Der.sequence b
  let (modulus, b) ← Der.unsignedItem? body
  let (exponent, []) ← Der.unsignedItem? b | none
  return (⟨modulus, exponent⟩, rest)

/-- The RSA key of a published one in its exact form. -/
def publishedRsa? (b : Bytes) : Option Rsa.PublicKey := do
  let (key, []) ← readRsa? (← KeyInfo.canonical? .rsa b) | none
  return key

/-- The point that belongs to a scalar. -/
def pointBits (c : Curve) (scalar : Nat) : Bytes :=
  match c.affine? (c.times scalar c.base) with
  | some (x, y) => c.encodePoint x y
  | none => []

/-- The bits of the published key. -/
def publicBits : Secret → Bytes
  | rsa k => rsaBits k.publicKey
  | p256 d => pointBits .p256 d
  | p384 d => pointBits .p384 d

/-- The published key in its written form. -/
def keyInfo (s : Secret) : Bytes := KeyInfo.encode s.family s.publicBits

/-! ## Reading -/

/-- The parts of an RSA key fit: the primes multiply to the modulus and the exponents undo each
other, also in the form split by the primes. -/
def fits (n e d p q dp dq inverse : Nat) : Bool :=
  n = p * q && 1 < p && 1 < q && d < n && e * d % (p - 1) = 1 % (p - 1)
    && e * d % (q - 1) = 1 % (q - 1) && dp = d % (p - 1) && dq = d % (q - 1)
    && inverse < p && inverse * q % p = 1

/-- Reads an RSA key with two primes. -/
def readRsaSecret? (b : Bytes) : Option Secret := do
  let (body, []) ← Der.tagged? Der.sequence b | none
  let (0, b) ← Der.unsignedItem? body | none
  let (n, b) ← Der.unsignedItem? b
  let (e, b) ← Der.unsignedItem? b
  let (d, b) ← Der.unsignedItem? b
  let (p, b) ← Der.unsignedItem? b
  let (q, b) ← Der.unsignedItem? b
  let (dp, b) ← Der.unsignedItem? b
  let (dq, b) ← Der.unsignedItem? b
  let (inverse, []) ← Der.unsignedItem? b | none
  let key : Rsa.PublicKey := ⟨n, e⟩
  if key.usable ∧ fits n e d p q dp dq inverse then some (rsa ⟨key, d⟩) else none

/-- A written point is the one that belongs to the scalar. -/
def fitsPoint (c : Curve) (scalar : Nat) (point : Bytes) : Bool := (do
  let (0 :: bits, []) ← Der.tagged? Der.bitString point | none
  let p ← c.decodePoint? bits
  return decide (c.affine? p = c.affine? (c.times scalar c.base))).getD false

/-- Reads the scalar of an elliptic key; a curve or point beside it must fit it. -/
def readScalar? (c : Curve) (id : ObjectId) (b : Bytes) : Option Nat := do
  let (body, []) ← Der.tagged? Der.sequence b | none
  let (1, b) ← Der.unsignedItem? body | none
  let (digits, b) ← Der.tagged? Der.octetString b
  let (curve?, b) ← Der.optional? (Der.optional 0) b
  let (point?, []) ← Der.optional? (Der.optional 1) b | none
  let scalar := Bytes.toNat digits
  if 0 < scalar ∧ scalar < c.order ∧ curve?.all (c.isNamedBy id) ∧ point?.all (fitsPoint c scalar)
    then some scalar else none

/-- The kind of key that the algorithm of a secret key is for. -/
def readFamily? (algorithm : Bytes) : Option KeyFamily := do
  let (id, parameters) ← Der.tagged? Der.objectId algorithm
  if id = ObjectId.rsa.encode ∧ parameters = Der.item Der.null [] then some .rsa
  else if id = ObjectId.ec.encode ∧ Curve.p256.isNamedBy ObjectId.p256 parameters then some .ecP256
  else if id = ObjectId.ec.encode ∧ Curve.p384.isNamedBy ObjectId.p384 parameters then some .ecP384
  else none

/-- What may follow a secret key: attributes, and in the newer of two versions the published key.
Neither is used. -/
def isTail (version : Nat) (b : Bytes) : Bool := (do
  let (_, b) ← Der.optional? (Der.optional 0) b
  if version = 0 then return true
  let _ ← Der.optional? (Der.optionalBytes 1) b
  return version = 1).getD false

/-- Reads a key in PKCS #8. -/
def read? (der : Bytes) : Option Secret := do
  let (body, _) ← Der.tagged? Der.sequence der
  let (version, b) ← Der.unsignedItem? body
  let (algorithm, b) ← Der.tagged? Der.sequence b
  let (key, b) ← Der.tagged? Der.octetString b
  if !isTail version b then none
  match ← readFamily? algorithm with
  | .rsa => readRsaSecret? key
  | .ecP256 => p256 <$> readScalar? .p256 ObjectId.p256 key
  | .ecP384 => p384 <$> readScalar? .p384 ObjectId.p384 key

/-! ## Writing -/

/-- An elliptic key in PKCS #8, with its point. -/
def encodeScalar (f : KeyFamily) (c : Curve) (scalar : Nat) : Bytes :=
  let key := Der.item Der.sequence (Der.unsigned 1
    ++ Der.item Der.octetString (Bytes.ofNat c.size scalar)
    ++ Der.item (Der.optional 1) (Der.bitsItem (pointBits c scalar)))
  Der.item Der.sequence (Der.unsigned 0 ++ AlgorithmId.encode f ++ Der.item Der.octetString key)

end Secret

end Federation.Crypto
