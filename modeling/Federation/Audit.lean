/-!
# Audit records

What the library reports about each message it produces or consumes. Records are written once, in
the order of the calls, and never read back by the calls that write them.
-/

namespace Federation.Audit

/-! ## Codes -/

/-- The stable code of a record. -/
inductive Code
  | validAssertionAccepted
  | assertionProduced
  | trustResolutionFailed
  | configurationInvalid
  | encryptionFailed
  | decryptionFailed
  | signatureStructureInvalid
  | signatureInvalid
  | assertionInvalid
  | unknownIssuer
  | missingTimeframe
  | expiredOrPremature
  | missingSubject
  | replayDetected
  | internalError
deriving DecidableEq, Repr

namespace Code

/-- The form that records carry; it never changes. -/
def text : Code → String
  | validAssertionAccepted => "VALID_ASSERTION_ACCEPTED"
  | assertionProduced => "ASSERTION_PRODUCED"
  | trustResolutionFailed => "TRUST_RESOLUTION_FAILED"
  | configurationInvalid => "CONFIGURATION_INVALID"
  | encryptionFailed => "ENCRYPTION_FAILED"
  | decryptionFailed => "DECRYPTION_FAILED"
  | signatureStructureInvalid => "SIGNATURE_STRUCTURE_INVALID"
  | signatureInvalid => "SIGNATURE_INVALID"
  | assertionInvalid => "ASSERTION_INVALID"
  | unknownIssuer => "UNKNOWN_ISSUER"
  | missingTimeframe => "MISSING_TIMEFRAME"
  | expiredOrPremature => "EXPIRED_OR_PREMATURE"
  | missingSubject => "MISSING_SUBJECT"
  | replayDetected => "REPLAY_DETECTED"
  | internalError => "INTERNAL_ERROR"

/-- What a code means. -/
def description : Code → String
  | validAssertionAccepted => "valid assertion accepted"
  | assertionProduced => "assertion produced"
  | trustResolutionFailed => "trust resolution failed"
  | configurationInvalid => "invalid configuration"
  | encryptionFailed => "assertion encryption failed"
  | decryptionFailed => "assertion decryption failed"
  | signatureStructureInvalid => "signature structure invalid"
  | signatureInvalid => "signature invalid"
  | assertionInvalid => "assertion invalid"
  | unknownIssuer => "unknown issuer"
  | missingTimeframe => "assertion timeframe missing"
  | expiredOrPremature => "assertion expired or not yet valid"
  | missingSubject => "assertion subject missing"
  | replayDetected => "assertion replay detected"
  | internalError => "internal error"

/-- The two codes of calls that succeed. -/
def isSuccess : Code → Bool
  | validAssertionAccepted | assertionProduced => true
  | _ => false

def all : List Code :=
  [validAssertionAccepted, assertionProduced, trustResolutionFailed, configurationInvalid,
   encryptionFailed, decryptionFailed, signatureStructureInvalid, signatureInvalid,
   assertionInvalid, unknownIssuer, missingTimeframe, expiredOrPremature, missingSubject,
   replayDetected, internalError]

def ofText? (s : String) : Option Code := all.find? (·.text == s)

end Code

/-! ## Records -/

inductive Outcome
  | success
  | error
deriving DecidableEq, Repr

def Outcome.text : Outcome → String
  | .success => "success"
  | .error => "error"

/-- One record: what happened, between which identity provider and which service provider. -/
structure Event where
  code : Code
  idp : String
  protocol : String
  sp : String
  detail : String
  outcome : Outcome
deriving DecidableEq, Repr

/-- The record of a success says what its code means. -/
def Event.success (code : Code) (idp protocol sp : String) : Event :=
  { code, idp, protocol, sp, detail := code.description, outcome := .success }

def Event.error (code : Code) (idp protocol sp detail : String) : Event :=
  { code, idp, protocol, sp, detail, outcome := .error }

end Federation.Audit
