import Federation.Crypto.Curve
import Federation.Crypto.Digest

/-!
# ECDSA

Signatures with a curve and a digest of the same strength, written as the two numbers side by side.
The secret number that each signature needs is drawn from the key and the message, so signing is a
function and no number serves two messages.
-/

namespace Federation.Crypto.Ecdsa

/-- The secret number of the `i`-th attempt at a signature. -/
def nonce (c : Curve) (secret : Nat) (hash : Bytes) (i : Nat) : Nat :=
  Bytes.toNat (DigestAlgorithm.sha512.digest
    (Bytes.ofNat c.size secret ++ hash ++ [UInt8.ofNat i])) % c.order

/-- The hash as a number, cut to the length of the order. -/
def element (c : Curve) (hash : Bytes) : Nat := Bytes.toNat (hash.take c.size)

/-- The signature with the secret number `k`, unless one of its parts would be zero. -/
def signWith? (c : Curve) (secret : Nat) (hash : Bytes) (k : Nat) : Option Bytes := do
  let (x, _) ← c.affine? (c.times k c.base)
  let r := x % c.order
  let s := Modular.inverse k c.order * (element c hash + r * secret) % c.order
  if r = 0 ∨ s = 0 then none else some (Bytes.ofNat c.size r ++ Bytes.ofNat c.size s)

/-- Signs a message; the attempts all but never fail. -/
def sign? (c : Curve) (a : DigestAlgorithm) (secret : Nat) (message : Bytes) : Option Bytes :=
  let hash := a.digest message
  (List.range 8).findSome? fun i => signWith? c secret hash (nonce c secret hash i)

def verify (c : Curve) (a : DigestAlgorithm) (key message signature : Bytes) : Bool :=
  match c.decodePoint? key with
  | none => false
  | some q =>
    let r := Bytes.toNat (signature.take c.size)
    let s := Bytes.toNat (signature.drop c.size)
    signature.length = 2 * c.size && 0 < r && r < c.order && 0 < s && s < c.order &&
      let w := Modular.inverse s c.order
      let p := c.add (c.times (element c (a.digest message) * w % c.order) c.base)
        (c.times (r * w % c.order) q)
      match c.affine? p with
      | some (x, _) => x % c.order = r
      | none => false

end Federation.Crypto.Ecdsa
