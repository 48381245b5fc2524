import Federation.Saml.Vocabulary
import Federation.Time.Instant

/-!
# Assertions

A statement by an identity provider about a subject, with the window of time it holds in. The
producer builds one and the consumer only examines it.

- `Validity` is a window with its start before its end; the start belongs to it, the end does not.
- `SignatureRecord` keeps algorithms as the URIs that a signature names, known or not.
-/

namespace Federation.Saml

open Federation.Time

/-! ## Windows -/

/-- The window from `notBefore` up to, and not including, `notOnOrAfter`. -/
structure Validity where
  notBefore : Instant
  notOnOrAfter : Instant
  ordered : notBefore < notOnOrAfter
deriving DecidableEq

namespace Validity

/-- The window between two instants, if the first is the earlier. -/
def of (notBefore notOnOrAfter : Instant) : Except Failure Validity :=
  if h : notBefore < notOnOrAfter then .ok ⟨notBefore, notOnOrAfter, h⟩
  else .error (.invalidAssertion ("NotBefore " ++ notBefore.shown
    ++ " is not earlier than NotOnOrAfter " ++ notOnOrAfter.shown))

/-- The window between two ends that are given both or not at all. -/
def ofBounds : Option Instant → Option Instant → Except Failure (Option Validity)
  | some notBefore, some notOnOrAfter => some <$> of notBefore notOnOrAfter
  | none, none => .ok none
  | _, _ => .error (.invalidAssertion "NotBefore and NotOnOrAfter must be set together")

/-- The instant lies in the window widened on both sides by the size of `skew`. An end that leaves
the range of instants is open. -/
def contains (v : Validity) (now : Instant) (skew : Duration) : Bool :=
  (match v.notBefore.sub? skew.abs with
    | some start => decide (start ≤ now)
    | none => true)
  && (match v.notOnOrAfter.add? skew.abs with
    | some stop => decide (now < stop)
    | none => true)

/-- How long the window is. -/
def length (v : Validity) : Duration := v.notOnOrAfter.since v.notBefore

/-- The window as messages show it, with a round bracket at the open end. -/
def shown (v : Validity) : String := "[" ++ v.notBefore.shown ++ ", " ++ v.notOnOrAfter.shown ++ ")"

end Validity

/-! ## Signatures -/

/-- The key that a signature carries. -/
inductive SignatureKey
  /-- An X.509 certificate of the signer. -/
  | certificate : List UInt8 → SignatureKey
  /-- The public key of the signer. -/
  | publicKey : List UInt8 → SignatureKey
deriving DecidableEq, Repr

/-- A signature inside the object it signs. -/
structure SignatureRecord where
  algorithm : String
  canonicalization : String
  /-- A `#` and the identifier of the signed object. -/
  referenceUri : String
  digestAlgorithm : String
  /-- The digest of the canonical text of the signed object. -/
  digestValue : List UInt8
  /-- The signature over the canonical text of the signed part of this record. -/
  signatureValue : List UInt8
  keyInfo : Option SignatureKey
deriving DecidableEq, Repr

/-! ## Assertions -/

/-- Whom an assertion is about. -/
structure Subject where
  identifier : String
  format : NameFormat := .unspecified
  confirmationMethod : String
  sourceDomain : Option String := none
  /-- The endpoint that the assertion is meant for. -/
  destination : Option String := none
deriving DecidableEq, Repr

/-- A subject that whoever presents the assertion is. -/
def Subject.bearer (identifier : String) (protocol : Protocol) : Subject :=
  { identifier, confirmationMethod := protocol.bearer }

/-- A statement by an identity provider. Attributes stand in the order of the document, and names
may repeat. -/
structure Assertion where
  id : String
  protocol : Protocol
  issueInstant : Instant
  issuer : Option String := none
  subject : Option Subject := none
  validity : Option Validity := none
  authnContextClass : Option String := none
  attributes : List (String × String) := []
  signature : Option SignatureRecord := none
deriving DecidableEq

namespace Assertion

def isSigned (a : Assertion) : Bool := a.signature.isSome

/-- The first value of an attribute. -/
def attribute? (a : Assertion) (name : String) : Option String := a.attributes.lookup name

end Assertion

end Federation.Saml
