import Federation.Crypto.KeyStore
import Federation.Exchange.Overrides
import Federation.Exchange.RelyingParty

/-!
# Installations

The parts of the library put together from one set of settings: the resolver over the metadata
source, the key directory, and the capabilities that the peer is served with.
-/

namespace Federation

open Saml Metadata Exchange
open Crypto (Suite KeyDirectory PrivateCredential KeyTransport DataEncryption)
open Time (Instant Span)

/-! ## Failures -/

/-- Why a command is not carried out. -/
inductive CommandFailure
  | config (detail : String)
  | saml (f : Failure)
  | crypto (f : Crypto.Failure)
  | setup (f : SetupFailure)
  | io (detail : String)
  | invalidArgument (detail : String)
deriving DecidableEq, Repr

namespace CommandFailure

def message : CommandFailure → String
  | config s => "configuration error: " ++ s
  | saml f => f.message
  | crypto f => "crypto error: " ++ f.message
  | setup f => f.message
  | io s => "IO error: " ++ s
  | invalidArgument s => "invalid argument: " ++ s

/-- What a failure was caused by, where that is a failure of its own. -/
def cause? : CommandFailure → Option String
  | crypto f => some f.message
  | setup (.io s) => some s
  | io s => some s
  | _ => none

end CommandFailure

instance : MonadLift (Except Failure) (Except CommandFailure) := ⟨Except.mapError .saml⟩

instance : MonadLift (Except Crypto.Failure) (Except CommandFailure) := ⟨Except.mapError .crypto⟩

instance : MonadLift (Except SetupFailure) (Except CommandFailure) := ⟨Except.mapError .setup⟩

/-! ## Installations -/

structure Installation where
  settings : Settings := {}
  overrides : Overrides := {}

namespace Installation

/-- The settings of a file, or the defaults. -/
def load (files : Files) (path : Option String) : Except CommandFailure Installation := do
  match path with
  | some path =>
    let settings ← Settings.ofFile files path
    return { settings }
  | none => return {}

def protocol (i : Installation) : Except CommandFailure Protocol :=
  let name := i.settings.identityProvider.protocol
  match Protocol.ofSetting? name with
  | some p => .ok p
  | none => .error (.config ("unknown protocol: " ++ name))

/-- Where the metadata come from. -/
def source (i : Installation) (files : Files) : Except CommandFailure Source := do
  match i.settings.metadata.path, i.settings.metadata.url with
  | some path, _ => return .ofFile files path
  | none, some url => Source.ofUrl url
  | none, none => throw (.config "metadata.path or metadata.url must be set")

/-- A resolver that has loaded the metadata. -/
def resolver (i : Installation) (files : Files) : Except CommandFailure Resolver := do
  let source ← i.source files
  let defaultTransport ← KeyTransport.ofUri i.settings.crypto.keyTransport
  let interval := i.settings.metadata.refreshInterval
  let r : Resolver :=
    { policy := .ofInterval (if interval = 0 then none else some (.ofSeconds interval))
      loadTimeout := .ofSeconds i.settings.metadata.loadTimeout, defaultTransport }
  let (loaded, r) := r.refresh source ⟨0⟩
  loaded
  return r

/-- The capabilities for the configured peer, with the configured encrypter unless the peer has one
of its own. -/
def capabilities (i : Installation) (suite : Suite) : Except CommandFailure Capabilities := do
  let code := i.settings.identityProvider.peerCode
  let all := i.overrides.capabilities suite code
  if (code.bind fun c => i.overrides.find? c .encrypts).isSome then return all
  let encryption ← DataEncryption.ofUri i.settings.crypto.dataEncryption
  let encrypter : Encrypter := { encryption, placement := i.settings.crypto.keyPlacement }
  return all.put (.encrypts (.ofEncrypter suite encrypter))

def keys (i : Installation) : KeyDirectory := ⟨i.settings.keyStore.directory⟩

/-- The private key of an alias, if one is set. Keys in a directory have no passwords. -/
def privateKey (i : Installation) (files : Files) (keyAlias : Option String) :
    Except CommandFailure (Option PrivateCredential) := do
  match keyAlias with
  | some keyAlias => return some (← i.keys.privateKey files keyAlias)
  | none => return none

def signingKey (i : Installation) (files : Files) :
    Except CommandFailure (Option PrivateCredential) :=
  i.privateKey files i.settings.identityProvider.signingKeyAlias

def decryptionKey (i : Installation) (files : Files) :
    Except CommandFailure (Option PrivateCredential) :=
  i.privateKey files i.settings.serviceProvider.decryptionKeyAlias

/-! ## Parties -/

def assertingParty (i : Installation) (suite : Suite) (files : Files) :
    Except CommandFailure AssertingParty := do
  let profile ← AssertingProfile.ofSettings i.settings
  let resolver ← i.resolver files
  let key ← i.signingKey files
  let capabilities ← i.capabilities suite
  AssertingParty.of profile resolver key capabilities

/-- The party that receives, and its state before the first call. -/
def relyingParty (i : Installation) (suite : Suite) (files : Files) :
    Except CommandFailure (RelyingParty × RelyingState) := do
  let profile ← RelyingProfile.ofSettings i.settings
  let resolver ← i.resolver files
  let validator : Validator := { protocol := profile.protocol }
  let key ← i.decryptionKey files
  let capabilities ← i.capabilities suite
  let party ← RelyingParty.of profile resolver key
    (validator.withSettings i.settings.validation) capabilities
  return (party, { resolver, replay := {} })

end Installation

end Federation
