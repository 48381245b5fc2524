import Federation.Audit
import Federation.Crypto.Algorithm
import Federation.Xml.Element

/-!
# Failures

Why a message is not produced or not accepted. Each kind has an audit code and a top-level status;
nothing recovers from one silently.
-/

namespace Federation.Saml

/-- Why an operation on messages, metadata or keys fails. -/
inductive Failure
  /-- Metadata lacks an entity, a descriptor or an endpoint. -/
  | trustResolution (detail : String)
  | configuration (detail : String)
  | encryption (detail : String)
  /-- Tells nothing about the step that failed. -/
  | decryption
  /-- The signature cannot be used as it stands. -/
  | signatureEngine (detail : String)
  /-- A well formed signature does not verify. -/
  | signatureRejected (detail : String)
  | invalidAssertion (detail : String)
  | unknownIssuer (detail : String)
  | missingTimeframe
  | expiredOrPremature (detail : String)
  | missingSubject
  | replayDetected (detail : String)
  | xmlParse (detail : String)
  | keyStore (detail : String)
  | metadata (detail : String)
  | internal (detail : String)
deriving DecidableEq, Repr

namespace Failure

/-- The wording of a failure. -/
def message : Failure → String
  | trustResolution s => "trust resolution failed: " ++ s
  | configuration s => "configuration error: " ++ s
  | encryption s => "encryption failed: " ++ s
  | decryption => "decryption failed"
  | signatureEngine s => "signature error: " ++ s
  | signatureRejected s => "signature rejected: " ++ s
  | invalidAssertion s => "invalid assertion: " ++ s
  | unknownIssuer s => "unknown issuer: " ++ s
  | missingTimeframe => "assertion has no validity window"
  | expiredOrPremature s => "assertion expired or not yet valid: " ++ s
  | missingSubject => "assertion has no subject"
  | replayDetected s => "replay detected: " ++ s
  | xmlParse s => "XML parsing error: " ++ s
  | keyStore s => "key store error: " ++ s
  | metadata s => "metadata error: " ++ s
  | internal s => "internal error: " ++ s

/-- The code under which a failure is audited. -/
def auditCode : Failure → Audit.Code
  | trustResolution _ | metadata _ => .trustResolutionFailed
  | configuration _ | keyStore _ => .configurationInvalid
  | encryption _ => .encryptionFailed
  | decryption => .decryptionFailed
  | signatureEngine _ => .signatureStructureInvalid
  | signatureRejected _ => .signatureInvalid
  | invalidAssertion _ | xmlParse _ => .assertionInvalid
  | unknownIssuer _ => .unknownIssuer
  | missingTimeframe => .missingTimeframe
  | expiredOrPremature _ => .expiredOrPremature
  | missingSubject => .missingSubject
  | replayDetected _ => .replayDetected
  | internal _ => .internalError

/-- The SAML 2.0 status that reports a failure. -/
def statusUri : Failure → String
  | invalidAssertion _ | xmlParse _ | signatureEngine _ | signatureRejected _ | missingTimeframe
  | expiredOrPremature _ | missingSubject | replayDetected _ | decryption =>
    "urn:oasis:names:tc:SAML:2.0:status:Requester"
  | unknownIssuer _ => "urn:oasis:names:tc:SAML:2.0:status:RequestDenied"
  | trustResolution _ | configuration _ | encryption _ | keyStore _ | metadata _ | internal _ =>
    "urn:oasis:names:tc:SAML:2.0:status:Responder"

/-- A cryptographic failure while working on a message. -/
def ofCrypto : Crypto.Failure → Failure
  | .decryption => decryption
  | .encryption s => encryption s
  | .keyStore s => keyStore s
  | .signing s => signatureEngine s
  | .unsupportedAlgorithm s => signatureEngine ("algorithm not supported: " ++ s)
  | .invalidKey s => configuration ("invalid key: " ++ s)

/-- A document or value that cannot be read. -/
def ofXml (f : Xml.Fault) : Failure := xmlParse f.message

end Failure

/-- Lets a cryptographic result stand among those on messages. -/
def liftCrypto {α : Type} (r : Except Crypto.Failure α) : Except Failure α :=
  r.mapError Failure.ofCrypto

/-- Lets the result of reading a document stand among those on messages. -/
def liftXml {α : Type} (r : Except Xml.Fault α) : Except Failure α := r.mapError Failure.ofXml

end Federation.Saml
