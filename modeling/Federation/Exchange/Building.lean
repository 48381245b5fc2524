import Federation.Crypto.Random
import Federation.Saml.Assertion

/-!
# Building assertions

What a caller asks an assertion to state, and the assertion that states it: a bearer subject that is
addressed to the receiving endpoint, a window of time, and the attributes as they were asked for.
-/

namespace Federation.Exchange

open Federation.Saml Federation.Time
open Federation.Crypto (Random)

/-- What an assertion is to state. -/
structure Request where
  subject : String
  format : NameFormat := .unspecified
  /-- The start of the window; the time of the call if there is none. -/
  notBefore : Option Instant := none
  /-- The length of the window; the usual one if there is none. -/
  lifetime : Option Duration := none
  authnContextClass : Option String := none
  attributes : List (String × String) := []
  /-- The identifier of the message that this one answers. -/
  inResponseTo : Option String := none
deriving DecidableEq, Repr

/-- What is known about the exchange before the assertion is built. -/
structure Setting where
  issuer : String
  serviceProvider : String
  protocol : Protocol
  /-- The endpoint that the assertion is meant for. -/
  destination : String
  now : Instant
  /-- The usual length of a window. -/
  lifetime : Duration
deriving DecidableEq, Repr

/-- The window that a request asks for. -/
def Request.window (q : Request) (s : Setting) : Except Failure Validity :=
  let notBefore := q.notBefore.getD s.now
  let lifetime := q.lifetime.getD s.lifetime
  match notBefore.add? lifetime with
  | some notOnOrAfter => Validity.of notBefore notOnOrAfter
  | none => .error (.invalidAssertion
      ("lifetime " ++ lifetime.text ++ " from " ++ notBefore.shown ++ " is out of range"))

/-- The assertion that a request asks for, neither signed nor encrypted. -/
def Request.build (q : Request) (s : Setting) (random : Random) : Except Failure Assertion := do
  let window ← q.window s
  let subject := { Subject.bearer q.subject s.protocol with
    format := q.format, destination := some s.destination }
  return { id := random.xmlId .assertionId, protocol := s.protocol, issueInstant := s.now
           issuer := some s.issuer, subject := some subject, validity := some window
           authnContextClass := q.authnContextClass, attributes := q.attributes }

end Federation.Exchange
