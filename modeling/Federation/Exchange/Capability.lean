import Federation.Exchange.Building
import Federation.Saml.Encryption
import Federation.Saml.Signing

/-!
# Capabilities

An exchange is put together from four capabilities: building assertions, accepting them, encrypting
them, and signing messages. Each is a record of functions, so that a peer with needs of its own can
be served by another one.

- `Capabilities.standard` has the four that this library gives every peer.
- `Implementation` is one capability of any kind.
-/

namespace Federation.Exchange

open Federation.Saml
open Federation.Crypto (Suite Random PublicCredential PrivateCredential)

/-! ## The four kinds -/

/-- Builds the assertion for a request. -/
structure Builds where
  build : Request → Setting → Random → Except Failure Assertion

/-- Has the last word on an assertion that passed every check. -/
structure Accepts where
  accept : Assertion → Except Failure Unit

/-- Encrypts assertions for a recipient, and decrypts those that others encrypted. -/
structure Encrypts where
  encrypt : Random → Assertion → PublicCredential → (transport : String) →
    (recipientId : Option String) → Except Failure EncryptedAssertion
  decrypt : Random → EncryptedAssertion → PrivateCredential → (recipientId : Option String) →
    Except Failure Assertion

/-- Signs messages and validates signatures. -/
structure Signs where
  signAssertion : Assertion → PrivateCredential → Except Failure Assertion
  signResponse : Response → PrivateCredential → Except Failure Response
  validateAssertion : Assertion → Anchor → Except Failure Bool
  validateResponse : Response → Anchor → Except Failure Bool

namespace Builds

def standard : Builds := ⟨Request.build⟩

end Builds

namespace Accepts

/-- Accepts every assertion. -/
def standard : Accepts := ⟨fun _ => .ok ()⟩

end Accepts

namespace Encrypts

def ofEncrypter (suite : Suite) (x : Encrypter) : Encrypts where
  encrypt random a recipient transport recipientId :=
    x.encrypt suite random a recipient transport recipientId
  decrypt random e c recipientId := x.decrypt suite random e c recipientId

end Encrypts

namespace Signs

def standard (suite : Suite) : Signs where
  signAssertion a c := sign suite a c
  signResponse r c := sign suite r c
  validateAssertion a anchor := validate suite a anchor
  validateResponse r anchor := validate suite r anchor

end Signs

/-! ## Implementations -/

inductive CapabilityKind
  | produces
  | consumes
  | encrypts
  | signs
deriving DecidableEq, Repr

namespace CapabilityKind

def all : List CapabilityKind := [produces, consumes, encrypts, signs]

def name : CapabilityKind → String
  | produces => "produces"
  | consumes => "consumes"
  | encrypts => "encrypts"
  | signs => "signs"

end CapabilityKind

/-- One capability. -/
inductive Implementation
  | builds (b : Builds)
  | accepts (a : Accepts)
  | encrypts (e : Encrypts)
  | signs (s : Signs)

namespace Implementation

def kind : Implementation → CapabilityKind
  | builds _ => .produces
  | accepts _ => .consumes
  | encrypts _ => .encrypts
  | signs _ => .signs

/-- The one that every peer gets unless it has its own. -/
def standard (suite : Suite) : CapabilityKind → Implementation
  | .produces => builds .standard
  | .consumes => accepts .standard
  | .encrypts => encrypts (.ofEncrypter suite {})
  | .signs => signs (.standard suite)

/-- An implementation as records show it. -/
def shown (i : Implementation) : String := "Implementation(" ++ i.kind.name.capitalize ++ ")"

end Implementation

/-- What an exchange runs with. -/
structure Capabilities where
  builds : Builds
  accepts : Accepts
  encrypts : Encrypts
  signs : Signs

namespace Capabilities

def standard (suite : Suite) : Capabilities where
  builds := .standard
  accepts := .standard
  encrypts := .ofEncrypter suite {}
  signs := .standard suite

/-- The set with one capability replaced. -/
def put (c : Capabilities) : Implementation → Capabilities
  | .builds b => { c with builds := b }
  | .accepts a => { c with accepts := a }
  | .encrypts e => { c with encrypts := e }
  | .signs s => { c with signs := s }

/-- The set as records show it. -/
def shown (_ : Capabilities) : String := "CapabilitySet \x7b .. \x7d"

end Capabilities

end Federation.Exchange
