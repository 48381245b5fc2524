import Federation.Crypto.Suite
import Federation.Saml.Encode

/-!
# Signing

Assertions and responses sign themselves: the signature stands inside and covers the canonical text
of the object without it. Validation works out that text again from the object, so the layout in
which it was received does not matter, and only keys of the anchor count, never the one that the
signature carries.

- `sign` attaches a signature, in place of one that was there.
- `validate` says whether the attached signature is right, `inspect` also whether it carries a key
  that is none of the anchor's.
-/

namespace Federation.Saml

open Federation.Crypto (Suite PublicCredential PrivateCredential SignatureAlgorithm DigestAlgorithm)

/-! ## What can be signed -/

/-- An object that carries a signature of its own. -/
class Signable (α : Type) where
  id : α → String
  /-- The text that a signature covers. -/
  canonicalText : α → Except Failure String
  signature? : α → Option SignatureRecord
  attach : α → SignatureRecord → α

instance : Signable Assertion where
  id a := a.id
  canonicalText a := .ok a.canonicalText
  signature? a := a.signature
  attach a s := { a with signature := some s }

instance : Signable Response where
  id r := r.id
  canonicalText r := r.canonicalText
  signature? r := r.signature
  attach r s := { r with signature := some s }

/-- What the reference of a signature must be. -/
def referenceTo {α : Type} [Signable α] (target : α) : String := "#" ++ Signable.id target

/-! ## Anchors -/

/-- The keys that a signature may verify with, or why they are not known. -/
abbrev Anchor := Except Failure (List PublicCredential)

/-- A single key. -/
def Anchor.key (c : PublicCredential) : Anchor := .ok [c]

/-- Keys that were looked up for a signer; one that cannot be found is unknown. -/
def Anchor.published (keys : Except Failure (List PublicCredential)) : Anchor :=
  keys.mapError fun
    | .trustResolution s => .unknownIssuer s
    | f => f

/-! ## Signing -/

/-- The key that a signature carries: the certificate if there is one. -/
def SignatureKey.ofCredential (c : PublicCredential) : SignatureKey :=
  match c.certificate with
  | some der => .certificate der
  | none => .publicKey c.keyInfo

/-- The credential of the key that a signature carries, if it can be read. -/
def SignatureRecord.embedded? (s : SignatureRecord) : Option PublicCredential :=
  match s.keyInfo with
  | some (.certificate der) => (PublicCredential.ofCertificate der).toOption
  | some (.publicKey der) => (PublicCredential.ofKeyInfo der).toOption
  | none => none

/-- The record of a signature whose value is still to be made. -/
def SignatureRecord.unsigned (suite : Suite) (reference text : String) (c : PrivateCredential) :
    SignatureRecord :=
  let algorithm := c.family.signatureAlgorithm
  { algorithm := algorithm.uri, canonicalization := exclusiveCanonicalization
    referenceUri := reference
    digestAlgorithm := algorithm.digest.uri
    digestValue := suite.digest algorithm.digest (Bytes.ofText text)
    signatureValue := [], keyInfo := some (.ofCredential c.publicHalf) }

/-- The signature of an object by the holder of a key. -/
def signatureFor {α : Type} [Signable α] (suite : Suite) (target : α) (c : PrivateCredential) :
    Except Failure SignatureRecord := do
  let text ← Signable.canonicalText target
  let record := SignatureRecord.unsigned suite (referenceTo target) text c
  let signatureValue ← liftCrypto
    (suite.sign c c.family.signatureAlgorithm (Bytes.ofText record.signedText))
  return { record with signatureValue }

/-- The object with a signature of its own. -/
def sign {α : Type} [Signable α] (suite : Suite) (target : α) (c : PrivateCredential) :
    Except Failure α :=
  Signable.attach target <$> signatureFor suite target c

/-! ## Validation -/

/-- The algorithms of a signature that can be used for an object. -/
def SignatureRecord.algorithms (s : SignatureRecord) (expected : String) :
    Except Failure (SignatureAlgorithm × DigestAlgorithm) := do
  if s.signatureValue.isEmpty then throw (.signatureEngine "signature has no value")
  if s.canonicalization ≠ exclusiveCanonicalization then
    throw (.signatureEngine ("unsupported canonicalization: " ++ s.canonicalization))
  if s.referenceUri ≠ expected then
    throw (.signatureEngine ("reference " ++ s.referenceUri ++ " does not point at " ++ expected))
  let algorithm ← liftCrypto (SignatureAlgorithm.ofUri s.algorithm)
  match DigestAlgorithm.ofUri? s.digestAlgorithm with
  | some digest => return (algorithm, digest)
  | none => throw (.signatureEngine ("unsupported digest algorithm: " ++ s.digestAlgorithm))

/-- The key that a signature carries, if it can be read and is none of these. -/
def SignatureRecord.foreign? (s : SignatureRecord) (keys : List PublicCredential) :
    Option PublicCredential :=
  s.embedded?.filter fun key => !keys.any (·.sameKey key)

/-- What is found out about a signature. -/
structure Verdict where
  /-- It verifies with a key of the anchor. -/
  valid : Bool
  /-- It does so although it carries another key, which is worth a remark and nothing else. -/
  foreign : Option PublicCredential := none
deriving DecidableEq, Repr

/-- Looks into the signature of an object. -/
def inspect {α : Type} [Signable α] (suite : Suite) (target : α) (anchor : Anchor) :
    Except Failure Verdict := do
  let some s := Signable.signature? target
    | throw (.signatureEngine
        (Signable.id target ++ " claims to be signed but carries no signature"))
  let (algorithm, digest) ← s.algorithms (referenceTo target)
  let keys ← anchor
  if keys.isEmpty then return { valid := false }
  let text ← Signable.canonicalText target
  let valid := suite.digest digest (Bytes.ofText text) = s.digestValue
    && keys.any fun key => suite.verify key algorithm (Bytes.ofText s.signedText) s.signatureValue
  return { valid, foreign := if valid then s.foreign? keys else none }

/-- Whether the signature of an object verifies with a key of the anchor. -/
def validate {α : Type} [Signable α] (suite : Suite) (target : α) (anchor : Anchor) :
    Except Failure Bool :=
  (·.valid) <$> inspect suite target anchor

end Federation.Saml
