import Federation.Files
import Federation.Saml.Encryption
import Federation.Text.Toml.Reader
import Federation.Text.Toml.Writer

/-!
# Settings

What an installation sets: where metadata and keys come from, who its identity provider and its
service provider are, and how strict they are. Every setting has a default, a section may be
missing, and a name that no setting has is passed over.

- `Settings.parse` reads and checks a TOML document.
- `Settings.write?` writes one that reads back, without the passwords.
-/

namespace Federation

open Saml Text
open Crypto (KeyTransport DataEncryption)

/-! ## Failures -/

/-- Why the surroundings fail the library: its settings, its files, or where it keeps records. -/
inductive SetupFailure
  | config (detail : String)
  | io (detail : String)
  | audit (detail : String)
deriving DecidableEq, Repr

namespace SetupFailure

def message : SetupFailure → String
  | config s => "configuration error: " ++ s
  | io s => "I/O error: " ++ s
  | audit s => "audit error: " ++ s

/-- Only settings are for an operator to mend. -/
def toFailure : SetupFailure → Failure
  | config s => .configuration (config s).message
  | f => .internal f.message

end SetupFailure

/-! ## Sections -/

/-- Where metadata come from. -/
structure MetadataSettings where
  path : Option String := none
  url : Option String := none
  /-- Seconds between loads; zero stands for loads on demand only. -/
  refreshInterval : Nat := 0
  loadTimeout : Nat := 10
deriving DecidableEq, Repr

structure KeyStoreSettings where
  directory : String := "keys"
  loadTimeout : Nat := 5
deriving DecidableEq, Repr

structure IdentityProviderSettings where
  entityId : String := ""
  signingKeyAlias : Option String := none
  signingKeyPassword : Option String := none
  requireSigning : Bool := true
  protocol : String := "saml2.0"
  /-- The URI of the binding that responses are sent over. -/
  binding : String := "urn:oasis:names:tc:SAML:2.0:bindings:HTTP-POST"
  /-- How many seconds an assertion is valid. -/
  assertionValidity : Nat := 300
  peerCode : Option String := none
deriving DecidableEq, Repr

structure ServiceProviderSettings where
  entityId : String := ""
  decryptionKeyAlias : Option String := none
  decryptionKeyPassword : Option String := none
  /-- The endpoint that messages must be addressed to. -/
  assertionConsumerUrl : Option String := none
  requireSignedAssertions : Bool := true
deriving DecidableEq, Repr

structure ValidationSettings where
  clockSkew : Nat := 0
  replayRetention : Nat := 3600
deriving DecidableEq, Repr

structure CryptoSettings where
  keyTransport : String := KeyTransport.rsaOaepMgf1p.uri
  dataEncryption : String := DataEncryption.aes128Gcm.uri
  keyPlacement : KeyPlacement := .inline
deriving DecidableEq, Repr

structure Settings where
  metadata : MetadataSettings := {}
  keyStore : KeyStoreSettings := {}
  identityProvider : IdentityProviderSettings := {}
  serviceProvider : ServiceProviderSettings := {}
  validation : ValidationSettings := {}
  crypto : CryptoSettings := {}
deriving DecidableEq, Repr

namespace Settings

/-! ## Reading -/

/-- The value of a field, or its default. -/
def valueOr {α : Type} (default : α) (read : Toml → Option α) : Option Toml → Option α
  | none => some default
  | some v => read v

/-- A text that need not be set. -/
def textOr (default : Option String) : Option Toml → Option (Option String) :=
  valueOr default fun v => v.text?.map some

def readMetadata (v : Toml) : Option MetadataSettings := do
  let field ← v.fieldsBy? ["path", "url", "refresh_interval_secs", "load_timeout_secs"]
  let d : MetadataSettings := {}
  return { path := ← textOr d.path (field "path")
           url := ← textOr d.url (field "url")
           refreshInterval := ← valueOr d.refreshInterval Toml.natural?
             (field "refresh_interval_secs")
           loadTimeout := ← valueOr d.loadTimeout Toml.natural? (field "load_timeout_secs") }

def readKeyStore (v : Toml) : Option KeyStoreSettings := do
  let field ← v.fieldsBy? ["directory", "load_timeout_secs"]
  let d : KeyStoreSettings := {}
  return { directory := ← valueOr d.directory Toml.text? (field "directory")
           loadTimeout := ← valueOr d.loadTimeout Toml.natural? (field "load_timeout_secs") }

def readIdentityProvider (v : Toml) : Option IdentityProviderSettings := do
  let field ← v.fieldsBy? ["entity_id", "signing_key_alias", "signing_key_password",
    "require_signing", "protocol", "binding", "assertion_validity_secs", "peer_code"]
  let d : IdentityProviderSettings := {}
  return { entityId := ← valueOr d.entityId Toml.text? (field "entity_id")
           signingKeyAlias := ← textOr d.signingKeyAlias (field "signing_key_alias")
           signingKeyPassword := ← textOr d.signingKeyPassword (field "signing_key_password")
           requireSigning := ← valueOr d.requireSigning Toml.boolean? (field "require_signing")
           protocol := ← valueOr d.protocol Toml.text? (field "protocol")
           binding := ← valueOr d.binding Toml.text? (field "binding")
           assertionValidity := ← valueOr d.assertionValidity Toml.natural?
             (field "assertion_validity_secs")
           peerCode := ← textOr d.peerCode (field "peer_code") }

def readServiceProvider (v : Toml) : Option ServiceProviderSettings := do
  let field ← v.fieldsBy? ["entity_id", "decryption_key_alias", "decryption_key_password",
    "assertion_consumer_url", "require_signed_assertions"]
  let d : ServiceProviderSettings := {}
  return { entityId := ← valueOr d.entityId Toml.text? (field "entity_id")
           decryptionKeyAlias := ← textOr d.decryptionKeyAlias (field "decryption_key_alias")
           decryptionKeyPassword := ← textOr d.decryptionKeyPassword
             (field "decryption_key_password")
           assertionConsumerUrl := ← textOr d.assertionConsumerUrl (field "assertion_consumer_url")
           requireSignedAssertions := ← valueOr d.requireSignedAssertions Toml.boolean?
             (field "require_signed_assertions") }

def readValidation (v : Toml) : Option ValidationSettings := do
  let field ← v.fieldsBy? ["clock_skew_secs", "replay_retention_secs"]
  let d : ValidationSettings := {}
  return { clockSkew := ← valueOr d.clockSkew Toml.natural? (field "clock_skew_secs")
           replayRetention := ← valueOr d.replayRetention Toml.natural?
             (field "replay_retention_secs") }

/-- A placement by its name; the name may also be the only key of a table, with nothing under it. -/
def readPlacement (v : Toml) : Option KeyPlacement := do
  let name ← match v with
    | .text s => some s
    | .table _ [(name, .table _ [])] | .table _ [(name, .array [])] => some name
    | _ => none
  [KeyPlacement.inline, KeyPlacement.peer].find? (·.name == name)

def readCrypto (v : Toml) : Option CryptoSettings := do
  let field ← v.fieldsBy? ["key_transport_algorithm", "data_encryption_algorithm", "key_placement"]
  let d : CryptoSettings := {}
  return { keyTransport := ← valueOr d.keyTransport Toml.text? (field "key_transport_algorithm")
           dataEncryption := ← valueOr d.dataEncryption Toml.text?
             (field "data_encryption_algorithm")
           keyPlacement := ← valueOr d.keyPlacement readPlacement (field "key_placement") }

/-- Reads settings without checking them. -/
def ofToml? (v : Toml) : Option Settings := do
  let part ← v.fieldsBy? []
  return { metadata := ← valueOr {} readMetadata (part "metadata")
           keyStore := ← valueOr {} readKeyStore (part "keystore")
           identityProvider := ← valueOr {} readIdentityProvider (part "identity_provider")
           serviceProvider := ← valueOr {} readServiceProvider (part "service_provider")
           validation := ← valueOr {} readValidation (part "validation")
           crypto := ← valueOr {} readCrypto (part "crypto") }

/-! ## Checks -/

/-- What is wrong with settings as a whole; the first fault in this order counts. -/
def fault? (s : Settings) : Option String :=
  if s.metadata.path.isSome ∧ s.metadata.url.isSome then
    some "metadata.path and metadata.url are mutually exclusive"
  else if s.metadata.loadTimeout = 0 then some "metadata.load_timeout_secs must be positive"
  else if s.keyStore.loadTimeout = 0 then some "keystore.load_timeout_secs must be positive"
  else if s.identityProvider.protocol ≠ "saml2.0" ∧ s.identityProvider.protocol ≠ "saml1.1" then
    some ("unknown protocol: " ++ s.identityProvider.protocol)
  else if s.identityProvider.assertionValidity = 0 then
    some "identity_provider.assertion_validity_secs must be positive"
  else if s.identityProvider.requireSigning ∧ s.identityProvider.entityId ≠ ""
      ∧ s.identityProvider.signingKeyAlias.isNone then
    some "identity_provider.require_signing is set but no signing_key_alias is configured"
  else none

/-- Reads settings and checks them. -/
def parse (text : String) : Except SetupFailure Settings :=
  match (Toml.parse? text).bind ofToml? with
  | none => .error (.config "failed to parse config: not the settings of an installation")
  | some s =>
    match s.fault? with
    | some detail => .error (.config detail)
    | none => .ok s

/-- Reads settings from a file. -/
def ofFile (files : Files) (path : String) : Except SetupFailure Settings :=
  match files.read path with
  | .text s => parse s
  | .missing => .error (.io "No such file or directory")
  | .unreadable reason => .error (.io reason)

/-- The variable that names the file of settings. -/
def pathVariable : String := "FEDTRUST_CONFIG"

/-- Reads settings from the file that the variable names, if it is set. -/
def ofVariable (files : Files) (value : Option String) : Except SetupFailure Settings :=
  match value with
  | some path => ofFile files path
  | none => .error (.config (pathVariable ++ " is not set"))

/-! ## Writing -/

/-- The settings by section, without the passwords. -/
def sections (s : Settings) : List (String × List (String × Option Toml)) :=
  let text? (v : Option String) : Option Toml := v.map .text
  let text (v : String) : Option Toml := some (.text v)
  let number (n : Nat) : Option Toml := some (.integer n)
  let flag (b : Bool) : Option Toml := some (.boolean b)
  [("metadata", [("path", text? s.metadata.path), ("url", text? s.metadata.url),
      ("refresh_interval_secs", number s.metadata.refreshInterval),
      ("load_timeout_secs", number s.metadata.loadTimeout)]),
   ("keystore", [("directory", text s.keyStore.directory),
      ("load_timeout_secs", number s.keyStore.loadTimeout)]),
   ("identity_provider", [("entity_id", text s.identityProvider.entityId),
      ("signing_key_alias", text? s.identityProvider.signingKeyAlias),
      ("require_signing", flag s.identityProvider.requireSigning),
      ("protocol", text s.identityProvider.protocol),
      ("binding", text s.identityProvider.binding),
      ("assertion_validity_secs", number s.identityProvider.assertionValidity),
      ("peer_code", text? s.identityProvider.peerCode)]),
   ("service_provider", [("entity_id", text s.serviceProvider.entityId),
      ("decryption_key_alias", text? s.serviceProvider.decryptionKeyAlias),
      ("assertion_consumer_url", text? s.serviceProvider.assertionConsumerUrl),
      ("require_signed_assertions", flag s.serviceProvider.requireSignedAssertions)]),
   ("validation", [("clock_skew_secs", number s.validation.clockSkew),
      ("replay_retention_secs", number s.validation.replayRetention)]),
   ("crypto", [("key_transport_algorithm", text s.crypto.keyTransport),
      ("data_encryption_algorithm", text s.crypto.dataEncryption),
      ("key_placement", text s.crypto.keyPlacement.name)])]

/-- A document of all settings but the passwords. -/
def write? (s : Settings) : Option String := Toml.write? s.sections

/-- The settings without the passwords. -/
def withoutPasswords (s : Settings) : Settings :=
  { s with identityProvider := { s.identityProvider with signingKeyPassword := none }
           serviceProvider := { s.serviceProvider with decryptionKeyPassword := none } }

end Settings

end Federation
