import Federation.Exchange.AssertingParty
import Federation.Exchange.Lifecycle
import Federation.Saml.Decode

/-!
# Relying parties

A service provider that receives responses. A response is examined first: its protocol, its
signature, where it is addressed to, its status, its assertion, and who vouches for that. Then come
the checks of the assertion's lifecycle, and last the acceptance that the peer may have of its own.

- `RelyingParty.examine` answers the assertion that a response carries, if it can be believed.
- `RelyingParty.judge` accepts it or not, and enters it into the replay store.
- `RelyingParty.consume` brings metadata up to date, judges, and writes one audit record.
-/

namespace Federation.Exchange

open Federation.Saml Federation.Time Federation.Metadata
open Federation.Crypto (Random PrivateCredential)

/-! ## Profiles -/

/-- Who receives, and how strictly. -/
structure RelyingProfile where
  serviceProvider : String
  protocol : Protocol
  /-- The endpoint that responses must be addressed to; the published one if there is none. -/
  expectedDestination : Option String := none
  /-- Unsigned messages are refused even from an issuer that publishes no signing key. -/
  requireSigned : Bool := true
  peerCode : Option String := none
deriving DecidableEq, Repr

/-- The profile of an installation. -/
def RelyingProfile.ofSettings (s : Settings) : Except Failure RelyingProfile := do
  let protocol ← settingProtocol s
  let sp := s.serviceProvider
  return { serviceProvider := sp.entityId, protocol
           expectedDestination := sp.assertionConsumerUrl
           requireSigned := sp.requireSignedAssertions, peerCode := s.identityProvider.peerCode }

/-- The validator with the skew and the retention that settings have. -/
def Validator.withSettings (v : Validator) (s : ValidationSettings) : Validator :=
  (v.withSkew (.ofSecondsCapped s.clockSkew)).withRetention (.ofSecondsCapped s.replayRetention)

/-! ## Parties -/

structure RelyingParty where
  profile : RelyingProfile
  serviceProvider : TrustedEntity
  /-- The endpoint that responses must be addressed to, if one is known. -/
  destination : Option String
  decryptionKey : Option PrivateCredential
  validator : Validator
  capabilities : Capabilities

/-- What changes from call to call. -/
structure RelyingState where
  resolver : Resolver
  replay : ReplayStore
  log : List Audit.Event := []

/-- What a call finds around it. -/
structure Surroundings where
  /-- The clock that the replay store reads. -/
  wall : Instant
  /-- How long the resolver has been running. -/
  uptime : Span
  source : Source
  random : Random

namespace RelyingParty

/-- The party of a profile, if metadata have it. The validator learns the endpoint. -/
def of (profile : RelyingProfile) (r : Resolver) (decryptionKey : Option PrivateCredential)
    (validator : Validator) (capabilities : Capabilities) : Except Failure RelyingParty := do
  if validator.protocol ≠ profile.protocol then
    throw (.configuration ("validator expects " ++ validator.protocol.name ++ " but consumer runs "
      ++ profile.protocol.name))
  let serviceProvider ← r.trusted ⟨profile.serviceProvider, .serviceProvider, profile.protocol⟩
  let published := (serviceProvider.endpoint profile.protocol.defaultBinding).toOption
  let destination := profile.expectedDestination.or published
  let validator := { validator with destination := destination.or validator.destination }
  return { profile, serviceProvider, destination, decryptionKey, validator, capabilities }

/-! ## Examining responses -/

def checkProtocol (p : RelyingParty) (r : Response) : Except Failure Unit :=
  if r.protocol = p.profile.protocol then .ok ()
  else .error (.invalidAssertion
    ("expected " ++ p.profile.protocol.name ++ " but response is " ++ r.protocol.name))

/-- The signature of a message is right under the keys that its issuer publishes. -/
def checkSignature (resolver : Resolver) (issuer : Option String)
    (validate : Anchor → Except Failure Bool) : Except Failure Unit := do
  let some id := issuer | throw (.unknownIssuer "signed message names no issuer")
  let keys := resolver.credentials id .identityProvider .signing
  if ← validate (Anchor.published keys) then return
  throw (.signatureRejected ("signature from " ++ id ++ " does not verify"))

def checkDestination (p : RelyingParty) (r : Response) : Except Failure Unit :=
  match p.destination, r.destination with
  | some expected, some destination =>
    if expected = destination then .ok ()
    else .error (.invalidAssertion
      ("response addressed to " ++ destination ++ ", expected " ++ expected))
  | _, _ => .ok ()

def checkStatus (p : RelyingParty) (r : Response) : Except Failure Unit :=
  if r.status = .success then .ok ()
  else .error (.invalidAssertion ("response status is " ++ r.status.value p.profile.protocol))

/-- The assertion that a response carries, decrypted if need be. -/
def openPayload (p : RelyingParty) (random : Random) (r : Response) : Except Failure Assertion :=
  match r.payload, p.decryptionKey with
  | some (.plain a), _ => .ok a
  | some (.encrypted e), some key =>
    p.capabilities.encrypts.decrypt random e key p.serviceProvider.entityId
  | some (.encrypted _), none => .error (.configuration "no decryption credential is configured")
  | none, _ => .error (.invalidAssertion "response carries no assertion")

/-- The signer of a response vouches for an unsigned assertion of its own only. -/
def checkSameIssuer (r : Response) (a : Assertion) : Except Failure Unit :=
  let signer := r.effectiveIssuer
  if signer.isSome ∧ signer = a.issuer then .ok ()
  else .error (.unknownIssuer ("assertion issued by " ++ a.issuer.getD "-"
    ++ " inside a response signed by " ++ signer.getD "-"))

/-- An assertion that nobody signed is believed only where no signature is expected. -/
def checkUnsignedAllowed (p : RelyingParty) (resolver : Resolver) (a : Assertion) :
    Except Failure Unit := do
  let some id := a.issuer | throw (.unknownIssuer "assertion has no issuer")
  let idp ← Validator.issuer resolver p.profile.protocol id
  if p.profile.requireSigned || idp.mustSign then
    throw (.signatureEngine ("message from " ++ id ++ " is not signed"))

/-- Somebody vouches for the assertion: itself, the response, or the rule for unsigned messages. -/
def checkVouched (p : RelyingParty) (resolver : Resolver) (r : Response) (a : Assertion) :
    Except Failure Unit :=
  if a.signature.isSome then
    checkSignature resolver a.issuer (p.capabilities.signs.validateAssertion a)
  else if r.signature.isSome then checkSameIssuer r a
  else p.checkUnsignedAllowed resolver a

/-- The assertion that a response carries, if it can be believed. -/
def examine (p : RelyingParty) (resolver : Resolver) (random : Random) (r : Response) :
    Except Failure Assertion := do
  p.checkProtocol r
  if r.signature.isSome then
    checkSignature resolver r.effectiveIssuer (p.capabilities.signs.validateResponse r)
  p.checkDestination r
  p.checkStatus r
  let a ← p.openPayload random r
  p.checkVouched resolver r a
  return a

/-! ## Judging and consuming -/

/-- Accepts the assertion of a response or not. One that passes every check of its lifecycle stays
in the replay store even if the peer's own acceptance rejects it. -/
def judge (p : RelyingParty) (resolver : Resolver) (replay : ReplayStore) (random : Random)
    (r : Response) (now wall : Instant) : Except Failure Assertion × ReplayStore :=
  match p.examine resolver random r with
  | .error f => (.error f, replay)
  | .ok a =>
    match p.validator.validate resolver replay a now wall with
    | (.error f, replay) => (.error f, replay)
    | (.ok (), replay) => ((p.capabilities.accepts.accept a).map fun _ => a, replay)

/-- The audit record of a call about an issuer that ended so. -/
def event (p : RelyingParty) (issuer : Option String) (result : Except Failure Assertion) :
    Audit.Event :=
  let idp := issuer.getD "-"
  let protocol := p.profile.protocol.name
  let sp := p.serviceProvider.entityId
  match result with
  | .ok _ => .success .validAssertionAccepted idp protocol sp
  | .error f => .error f.auditCode idp protocol sp f.message

/-- The issuer that the record of a call names. -/
def auditIssuer (r : Response) : Except Failure Assertion → Option String
  | .ok a => a.issuer
  | .error _ => r.effectiveIssuer

/-- Consumes a response as of `now`. Metadata that cannot be brought up to date stay as they are. -/
def consume (p : RelyingParty) (s : RelyingState) (around : Surroundings) (r : Response)
    (now : Instant) : Except Failure Assertion × RelyingState :=
  let resolver := (s.resolver.refreshIfStale around.source around.uptime).2
  let (result, replay) := p.judge resolver s.replay around.random r now around.wall
  (result, { resolver, replay, log := s.log ++ [p.event (auditIssuer r result) result] })

/-- Consumes the text of a response at the time of the call. -/
def consumeText (p : RelyingParty) (s : RelyingState) (around : Surroundings) (xml : String) :
    Except Failure Assertion × RelyingState :=
  match Response.decode xml with
  | .ok r => p.consume s around r around.wall
  | .error f => (.error f, { s with log := s.log ++ [p.event none (.error f)] })

end RelyingParty

end Federation.Exchange
