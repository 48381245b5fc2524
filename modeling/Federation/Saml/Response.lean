import Federation.Saml.Assertion

/-!
# Responses

The message that carries an assertion to a service provider, plain or encrypted.
-/

namespace Federation.Saml

open Federation.Time

/-! ## Status -/

/-- The top-level status of a response. -/
inductive Status
  | success
  | requester
  | responder
  /-- Any other value, as it is written. -/
  | other (value : String)
deriving DecidableEq, Repr

namespace Status

/-- The written form under a protocol. -/
def value : Status → Protocol → String
  | success, .saml20 => "urn:oasis:names:tc:SAML:2.0:status:Success"
  | requester, .saml20 => "urn:oasis:names:tc:SAML:2.0:status:Requester"
  | responder, .saml20 => "urn:oasis:names:tc:SAML:2.0:status:Responder"
  | success, .saml11 => "samlp:Success"
  | requester, .saml11 => "samlp:Requester"
  | responder, .saml11 => "samlp:Responder"
  | other s, _ => s

/-- Reads the written form of either protocol. -/
def ofValue (s : String) : Status :=
  if s = value success .saml20 ∨ s = value success .saml11 then success
  else if s = value requester .saml20 ∨ s = value requester .saml11 then requester
  else if s = value responder .saml20 ∨ s = value responder .saml11 then responder
  else other s

end Status

/-! ## Encrypted assertions -/

/-- A session key wrapped for a recipient. -/
structure EncryptedKey where
  id : Option String := none
  /-- The entity that is to unwrap the key. -/
  recipient : Option String := none
  algorithm : String
  /-- The name of the recipient's key. -/
  keyName : Option String := none
  /-- The name that the session key goes by. -/
  carriedKeyName : Option String := none
  cipherValue : List UInt8
deriving DecidableEq, Repr

/-- Where the encrypted data say that its session key is. -/
inductive KeyReference
  | inline : EncryptedKey → KeyReference
  /-- A `#` and the identifier of a wrapped key. -/
  | retrievalMethod : String → KeyReference
  | keyName : String → KeyReference
deriving DecidableEq, Repr

/-- An encrypted payload. -/
structure EncryptedData where
  id : Option String := none
  algorithm : String
  keyInfo : Option KeyReference := none
  cipherValue : List UInt8
deriving DecidableEq, Repr

/-- An encrypted assertion, with the wrapped keys that stand beside it. -/
structure EncryptedAssertion where
  data : EncryptedData
  keys : List EncryptedKey := []
deriving DecidableEq, Repr

/-! ## Responses -/

/-- What a response carries. -/
inductive Payload
  | plain : Assertion → Payload
  | encrypted : EncryptedAssertion → Payload
deriving DecidableEq

/-- A response. Those of SAML 1.1 have no issuer of their own. -/
structure Response where
  id : String
  protocol : Protocol
  issueInstant : Instant
  issuer : Option String := none
  destination : Option String := none
  inResponseTo : Option String := none
  status : Status := .success
  payload : Option Payload := none
  signature : Option SignatureRecord := none
deriving DecidableEq

/-- The issuer of the response, or else that of a plain assertion in it. -/
def Response.effectiveIssuer (r : Response) : Option String :=
  match r.issuer with
  | some issuer => some issuer
  | none =>
    match r.payload with
    | some (.plain a) => a.issuer
    | _ => none

end Federation.Saml
