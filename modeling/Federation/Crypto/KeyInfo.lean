import Federation.Crypto.Algorithm
import Federation.Crypto.Der.Part
import Federation.Crypto.ObjectId

/-!
# Published keys

The `SubjectPublicKeyInfo` that names the kind of a public key and holds its bits. It is written in
one form and read in many, since others wrote it.

    decode (encode f key) = ok (f, key)
-/

namespace Federation.Crypto

/-! ## Kinds of keys -/

/-- The identifier of an algorithm, and the body of its parameters if it has some. -/
structure AlgorithmId where
  id : Bytes
  parameters : Option Bytes

namespace AlgorithmId

/-- The body of the parameters, if anything follows the identifier. -/
def parameters? (b : Bytes) : Option (Option Bytes) :=
  if b.isEmpty then some none else (Der.Part.read? b).map fun p => some p.body

/-- Reads an algorithm, and answers the bytes after it. What follows its parameters is passed
over. -/
def read? (b : Bytes) : Option (AlgorithmId × Bytes) := do
  let p ← Der.Part.numbered? Der.sequence b
  let id ← (← Der.Part.read? p.body).simple?
  return (⟨id.body, ← parameters? id.rest⟩, p.rest)

/-- The kind of key on a curve, which the parameters name. -/
def curveFamily : Option Bytes → Except Failure KeyFamily
  | none => .error (.invalidKey "EC key without named curve")
  | some curve =>
    let id := ObjectId.read? curve
    if id = some ObjectId.p256 then .ok .ecP256
    else if id = some ObjectId.p384 then .ok .ecP384
    else .error (.invalidKey ("unsupported EC curve: " ++ ObjectId.shown curve))

/-- The kind of key that an algorithm is for. -/
def family (a : AlgorithmId) : Except Failure KeyFamily :=
  let id := ObjectId.read? a.id
  if id = some ObjectId.rsa then .ok .rsa
  else if id = some ObjectId.ec then curveFamily a.parameters
  else .error (.invalidKey ("unsupported public key algorithm: " ++ ObjectId.shown a.id))

/-- The algorithm of a kind of key, as it is written. -/
def encode (f : KeyFamily) : Bytes :=
  Der.item Der.sequence (match f with
    | .rsa => ObjectId.item ObjectId.rsa ++ Der.item Der.null []
    | .ecP256 => ObjectId.item ObjectId.ec ++ ObjectId.item ObjectId.p256
    | .ecP384 => ObjectId.item ObjectId.ec ++ ObjectId.item ObjectId.p384)

end AlgorithmId

/-! ## Published keys -/

/-- The algorithm and bits of a published key. -/
structure KeyInfo where
  algorithm : AlgorithmId
  key : Bytes

namespace KeyInfo

/-- Reads a published key from the front, with the number of bytes up to the end of its bits, and
answers the bytes after it. What follows the bits is passed over. -/
def read? (b : Bytes) : Option (KeyInfo × Nat × Bytes) := do
  let info ← Der.Part.numbered? Der.sequence b
  let (algorithm, more) ← AlgorithmId.read? info.body
  let bits ← Der.Part.numbered? Der.bitString more
  let size := b.length - info.rest.length - bits.rest.length
  return (⟨algorithm, ← bits.bits?⟩, size, info.rest)

/-- The kind and the bits of a published key. -/
def decode (b : Bytes) : Except Failure (KeyFamily × Bytes) :=
  match read? b with
  | some (info, _) => info.algorithm.family.map fun f => (f, info.key)
  | none => .error (.invalidKey "malformed SubjectPublicKeyInfo: not a readable structure")

/-- The written form of a key of some kind. -/
def encode (f : KeyFamily) (key : Bytes) : Bytes :=
  Der.item Der.sequence (AlgorithmId.encode f ++ Der.bitsItem key)

/-- The bits of a key in the one form that this library writes; bytes after it are passed over. -/
def canonical? (f : KeyFamily) (b : Bytes) : Option Bytes := do
  let (info, _) ← read? b
  if (encode f info.key).isPrefixOf b then some info.key else none

end KeyInfo

end Federation.Crypto
