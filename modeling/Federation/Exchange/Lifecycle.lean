import Federation.Exchange.Replay
import Federation.Metadata.Resolver

/-!
# Lifecycle

The checks that an assertion has to pass on arrival, in a fixed order: protocol, issuer, window of
time, subject, destination, and last that it was not there before. The first one that fails decides.

- `Validator.check` makes every check but the last and answers when the assertion may be forgotten.
- `Validator.validate` claims its identifier as well.
-/

namespace Federation.Exchange

open Federation.Saml Federation.Time Federation.Metadata

/-- The sum of an instant and a duration; beyond an end of the range it is that end. -/
def addCapped (t : Instant) (d : Duration) : Instant :=
  (t.add? d).getD (if d < ⟨0⟩ then .earliest else .latest)

structure Validator where
  protocol : Protocol
  /-- How far clocks may be apart; it has no sign. -/
  skew : Duration := ⟨0⟩
  /-- How long an identifier is remembered at least. -/
  retention : Duration := .ofSeconds 3600
  /-- The endpoint that a subject must name, if it names one. -/
  destination : Option String := none
deriving DecidableEq, Repr

namespace Validator

def withSkew (v : Validator) (d : Duration) : Validator := { v with skew := d.abs }

def withRetention (v : Validator) (d : Duration) : Validator := { v with retention := d }

/-! ## Checks -/

def checkProtocol (v : Validator) (a : Assertion) : Except Failure Unit :=
  if a.protocol = v.protocol then .ok ()
  else .error (.invalidAssertion
    ("expected " ++ v.protocol.name ++ " but assertion is " ++ a.protocol.name))

/-- The trusted entity of an issuer; one that metadata do not have is unknown. -/
def issuer (r : Resolver) (p : Protocol) (id : String) : Except Failure TrustedEntity :=
  (r.trusted ⟨id, .identityProvider, p⟩).mapError fun f => .unknownIssuer (id ++ ": " ++ f.message)

def checkIssuer (v : Validator) (r : Resolver) (a : Assertion) : Except Failure Unit :=
  match a.issuer with
  | none | some "" => .error (.unknownIssuer "assertion has no issuer")
  | some id => (issuer r v.protocol id).map fun _ => ()

/-- The window that holds `now`. -/
def checkWindow (v : Validator) (a : Assertion) (now : Instant) : Except Failure Validity :=
  match a.validity with
  | none => .error .missingTimeframe
  | some window =>
    if window.contains now v.skew then .ok window
    else .error (.expiredOrPremature
      ("window " ++ window.shown ++ " does not contain " ++ now.shown))

def checkSubject (a : Assertion) : Except Failure Unit :=
  match a.subject with
  | some s => if s.identifier = "" then .error .missingSubject else .ok ()
  | none => .error .missingSubject

def checkDestination (v : Validator) (a : Assertion) : Except Failure Unit :=
  match v.destination, a.subject.bind (·.destination) with
  | some expected, some destination =>
    if expected = destination then .ok ()
    else .error (.invalidAssertion
      ("assertion addressed to " ++ destination ++ ", expected " ++ expected))
  | _, _ => .ok ()

/-- When an assertion accepted now may be forgotten: its window has ended by then for every clock,
and the retention is over. -/
def expiry (v : Validator) (window : Validity) (now : Instant) : Instant :=
  (addCapped window.notOnOrAfter v.skew).later (addCapped now v.retention)

/-- Every check but that of replay, with the expiry of the assertion. -/
def check (v : Validator) (r : Resolver) (a : Assertion) (now : Instant) :
    Except Failure Instant := do
  v.checkProtocol a
  v.checkIssuer r a
  let window ← v.checkWindow a now
  checkSubject a
  v.checkDestination a
  return v.expiry window now

/-- All checks. The store reads its own clock, `wall`. -/
def validate (v : Validator) (r : Resolver) (s : ReplayStore) (a : Assertion)
    (now wall : Instant) : Except Failure Unit × ReplayStore :=
  match v.check r a now with
  | .ok expiry => s.claim a.id expiry wall
  | .error f => (.error f, s)

end Validator

end Federation.Exchange
