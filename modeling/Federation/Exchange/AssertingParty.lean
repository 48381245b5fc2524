import Federation.Exchange.Capability
import Federation.Metadata.Resolver
import Federation.Settings

/-!
# Asserting parties

An identity provider that sends responses to one service provider. Metadata decide where a response
goes and whether its assertion is encrypted; a signing key, if there is one, signs the response and
every assertion that is not encrypted.

- `AssertingParty.of` resolves both sides from metadata.
- `AssertingParty.respond` answers a request with a response.
- `AssertingParty.produce` does so and writes one audit record.
-/

namespace Federation.Exchange

open Federation.Saml Federation.Time Federation.Metadata
open Federation.Crypto (Random PrivateCredential)

/-! ## Profiles -/

/-- Who sends to whom, and how. -/
structure AssertingProfile where
  identityProvider : String
  serviceProvider : String
  protocol : Protocol
  /-- The binding whose endpoint responses go to. -/
  binding : Binding := protocol.defaultBinding
  requireSigning : Bool := true
  /-- How long an assertion is valid unless a request says otherwise. -/
  lifetime : Duration := .ofSeconds 300
  peerCode : Option String := none
deriving DecidableEq, Repr

/-- The protocol that settings name. -/
def settingProtocol (s : Settings) : Except Failure Protocol :=
  match Protocol.ofSetting? s.identityProvider.protocol with
  | some p => .ok p
  | none => .error (.configuration ("unknown protocol: " ++ s.identityProvider.protocol))

/-- The profile of an installation. -/
def AssertingProfile.ofSettings (s : Settings) : Except Failure AssertingProfile := do
  let idp := s.identityProvider
  let protocol ← settingProtocol s
  let some binding := Binding.ofUri? idp.binding
    | throw (.configuration ("unknown binding: " ++ idp.binding))
  let lifetime := Duration.ofSeconds idp.assertionValidity
  if Duration.longest < lifetime then
    throw (.configuration ("assertion validity too large: " ++ toString idp.assertionValidity))
  return { identityProvider := idp.entityId, serviceProvider := s.serviceProvider.entityId, protocol
           binding, requireSigning := idp.requireSigning, lifetime, peerCode := idp.peerCode }

/-! ## Parties -/

structure AssertingParty where
  profile : AssertingProfile
  identityProvider : TrustedEntity
  serviceProvider : TrustedEntity
  signingKey : Option PrivateCredential
  capabilities : Capabilities

/-- A response that is ready to be delivered. -/
structure Delivery where
  response : Response
  /-- The assertion in it before encryption, signed if it was signed. -/
  assertion : Assertion
  xml : String
  /-- The endpoint that the response is addressed to. -/
  destination : String
deriving DecidableEq

namespace AssertingParty

/-- The party of a profile, if metadata have both sides and a key is there where one is required. -/
def of (profile : AssertingProfile) (r : Resolver) (signingKey : Option PrivateCredential)
    (capabilities : Capabilities) : Except Failure AssertingParty := do
  if profile.requireSigning ∧ signingKey.isNone then
    throw (.configuration
      (profile.protocol.name ++ " requires signing but no signing credential is configured"))
  let identityProvider ← r.trusted ⟨profile.identityProvider, .identityProvider, profile.protocol⟩
  let serviceProvider ← r.trusted ⟨profile.serviceProvider, .serviceProvider, profile.protocol⟩
  return { profile, identityProvider, serviceProvider, signingKey, capabilities }

/-- What an assertion is built from. -/
def setting (p : AssertingParty) (destination : String) (now : Instant) : Setting where
  issuer := p.identityProvider.entityId
  serviceProvider := p.serviceProvider.entityId
  protocol := p.profile.protocol
  destination
  now
  lifetime := p.profile.lifetime

/-- The key that the assertion is encrypted with. Those of SAML 1.1 are not encrypted. -/
def encryption (p : AssertingParty) : Option (Crypto.PublicCredential × String) :=
  match p.profile.protocol with
  | .saml20 => p.serviceProvider.encryption
  | .saml11 => none

/-- The payload that carries an assertion, and the assertion as it is before encryption. -/
def payload (p : AssertingParty) (a : Assertion) (random : Random) :
    Except Failure (Payload × Assertion) := do
  match p.encryption, p.signingKey with
  | some (recipient, transport), _ =>
    let e ← p.capabilities.encrypts.encrypt random a recipient transport p.serviceProvider.entityId
    return (.encrypted e, a)
  | none, some key =>
    let a ← p.capabilities.signs.signAssertion a key
    return (.plain a, a)
  | none, none => return (.plain a, a)

/-- A response that answers a request. -/
def respond (p : AssertingParty) (q : Request) (now : Instant) (random : Random) :
    Except Failure Delivery := do
  let destination ← p.serviceProvider.endpoint p.profile.binding
  let built ← p.capabilities.builds.build q (p.setting destination now) random
  let (payload, assertion) ← p.payload built random
  let issuer := match p.profile.protocol with
    | .saml20 => some p.identityProvider.entityId
    | .saml11 => none
  let unsigned : Response :=
    { id := random.xmlId .responseId, protocol := p.profile.protocol, issueInstant := now, issuer
      destination := some destination, inResponseTo := q.inResponseTo, payload := some payload }
  let response ← match p.signingKey with
    | some key => p.capabilities.signs.signResponse unsigned key
    | none => pure unsigned
  let xml ← response.encode
  return { response, assertion, xml, destination }

/-- The audit record of a call that ended so. -/
def event (p : AssertingParty) (result : Except Failure Delivery) : Audit.Event :=
  let idp := p.identityProvider.entityId
  let protocol := p.profile.protocol.name
  let sp := p.serviceProvider.entityId
  match result with
  | .ok _ => .success .assertionProduced idp protocol sp
  | .error f => .error f.auditCode idp protocol sp f.message

/-- Answers a request, and adds one record to the log. -/
def produce (p : AssertingParty) (q : Request) (now : Instant) (random : Random)
    (log : List Audit.Event) : Except Failure Delivery × List Audit.Event :=
  let result := p.respond q now random
  (result, log ++ [p.event result])

end AssertingParty

end Federation.Exchange
