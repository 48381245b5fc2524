import Federation.Metadata.Document

/-!
# Trusted entities

What a document says about an entity in one role for one protocol: where to reach it, which keys its
signatures verify with, and which key to encrypt for it with. Every answer is a function of the
document.

- `Document.trusted` derives a trusted entity.
- `Document.credentials` lists the keys of an entity in a role for a use, whatever the protocol.
-/

namespace Federation.Metadata

open Federation.Saml
open Federation.Crypto (PublicCredential KeyTransport)

/-- What is trusted about an entity in a role. -/
structure TrustedEntity where
  entityId : String
  role : Role
  protocol : Protocol
  /-- The first endpoint of each binding, in order. -/
  endpoints : List Endpoint
  /-- The keys that signatures may verify with, in order. -/
  signingKeys : List PublicCredential
  /-- The key to encrypt with and the URI of the algorithm that wraps session keys. -/
  encryption : Option (PublicCredential × String)
deriving DecidableEq, Repr

/-- The first endpoint of each binding. -/
def firstEndpoints : List Endpoint → List Endpoint
  | [] => []
  | e :: rest => e :: (firstEndpoints rest).filter (·.binding ≠ e.binding)

namespace RoleDescriptor

def signingKeys (r : RoleDescriptor) : List PublicCredential :=
  (r.keys.filter (·.use.permits .signing)).map (·.key)

/-- The first key that may encrypt and can wrap session keys. -/
def encryptionKey? (r : RoleDescriptor) : Option KeyDescriptor :=
  r.keys.find? fun k => k.use.permits .encryption && k.key.family.supportsKeyTransport

end RoleDescriptor

/-- The first of a key's algorithms that wraps keys; the default if there is none. -/
def KeyDescriptor.transport (k : KeyDescriptor) (default : KeyTransport) : String :=
  (k.encryptionMethods.find? KeyTransport.isKeyTransportUri).getD default.uri

/-- What a descriptor says. -/
def TrustedEntity.ofDescriptor (default : KeyTransport) (entityId : String)
    (p : Protocol) (r : RoleDescriptor) : TrustedEntity where
  entityId
  role := r.role
  protocol := p
  endpoints := firstEndpoints r.endpoints
  signingKeys := r.signingKeys
  encryption := r.encryptionKey?.map fun k => (k.key, k.transport default)

namespace TrustedEntity

/-- The place where an entity is reached over a binding. -/
def endpoint (e : TrustedEntity) (b : Binding) : Except Failure String :=
  match e.endpoints.find? (·.binding = b) with
  | some endpoint => .ok endpoint.location
  | none => .error (.trustResolution (e.entityId ++ " has no endpoint for binding " ++ b.uri))

/-- An entity that publishes a key to sign with is expected to sign. -/
def mustSign (e : TrustedEntity) : Bool := !e.signingKeys.isEmpty

end TrustedEntity

namespace Document

def entity (d : Document) (id : String) : Except Failure Entity :=
  match d.entity? id with
  | some e => .ok e
  | none => .error (.trustResolution ("entity " ++ id ++ " is not in metadata"))

/-- The trusted entity that a document gives. -/
def trusted (d : Document) (default : KeyTransport) (id : String) (role : Role) (p : Protocol) :
    Except Failure TrustedEntity := do
  let e ← d.entity id
  match e.role? role p with
  | some r => return .ofDescriptor default id p r
  | none =>
    throw (.trustResolution (id ++ " has no " ++ role.descriptor ++ " supporting " ++ p.name))

/-- The keys in order, without those that an earlier one equals. -/
def distinctKeys : List PublicCredential → List PublicCredential
  | [] => []
  | c :: rest => c :: (distinctKeys rest).filter fun d => !c.sameKey d

/-- The keys that an entity publishes in a role for a use, each once. -/
def credentials (d : Document) (id : String) (role : Role) (use : KeyUse) :
    Except Failure (List PublicCredential) := do
  let e ← d.entity id
  let roles := e.rolesOf role
  if roles.isEmpty then throw (.trustResolution (id ++ " has no " ++ role.descriptor))
  let keys := roles.flatMap (·.keys)
  return distinctKeys ((keys.filter (·.use.permits use)).map (·.key))

end Document

end Federation.Metadata
