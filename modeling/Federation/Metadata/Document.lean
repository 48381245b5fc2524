import Federation.Crypto.Credential
import Federation.Saml.Decode
import Federation.Saml.Encode

/-!
# Metadata documents

What entities publish about themselves: the roles they play, the protocols they speak in them, their
keys and their endpoints. Groups of entities may be nested; a document keeps the entities alone.

- `Document.parse` reads a document; a key that cannot be read is left out and the rest stays.
- `Document.encode` writes one.
-/

namespace Federation.Metadata

open Federation.Saml Federation.Xml
open Federation.Crypto (PublicCredential)

/-! ## Types -/

/-- A published key. -/
structure KeyDescriptor where
  use : KeyUse
  key : PublicCredential
  /-- URIs of the algorithms that the key may be used with, in order. -/
  encryptionMethods : List String := []
deriving DecidableEq, Repr

structure Endpoint where
  binding : Binding
  location : String
deriving DecidableEq, Repr

/-- What an entity publishes for one of its roles. -/
structure RoleDescriptor where
  role : Role
  protocols : List Protocol
  keys : List KeyDescriptor := []
  endpoints : List Endpoint := []
deriving DecidableEq, Repr

structure Entity where
  entityId : String
  roles : List RoleDescriptor := []
deriving DecidableEq, Repr

/-- The entities of a document, in order. -/
structure Document where
  entities : List Entity := []
deriving DecidableEq, Repr

namespace RoleDescriptor

def supports (r : RoleDescriptor) (p : Protocol) : Bool := r.protocols.contains p

/-- Adds a protocol that is not there yet. -/
def withProtocol (r : RoleDescriptor) (p : Protocol) : RoleDescriptor :=
  if r.supports p then r else { r with protocols := r.protocols ++ [p] }

end RoleDescriptor

namespace Entity

/-- The first descriptor of a role that supports a protocol. -/
def role? (e : Entity) (r : Role) (p : Protocol) : Option RoleDescriptor :=
  e.roles.find? fun d => d.role = r && d.supports p

/-- Every descriptor of a role, whatever its protocols. -/
def rolesOf (e : Entity) (r : Role) : List RoleDescriptor := e.roles.filter (·.role = r)

end Entity

/-- The first entity with an identifier. -/
def Document.entity? (d : Document) (id : String) : Option Entity :=
  d.entities.find? (·.entityId == id)

/-- The element that holds the endpoints of a role. -/
def endpointElement : Role → String
  | .identityProvider => "SingleSignOnService"
  | .serviceProvider => "AssertionConsumerService"

/-! ## Reading -/

namespace KeyDescriptor

/-- The bytes of a key that is written out, and whether they are a certificate. -/
def keyText? (info : Element) : Option (Bool × String) :=
  match (info.child? "X509Data").bind (·.childText? "X509Certificate") with
  | some text => some (true, text)
  | none => (info.childText? "DEREncodedKeyValue").map fun text => (false, text)

/-- The key of a `KeyInfo`, with its name if it has one. -/
def readInfo? (info : Element) : Option PublicCredential := do
  let (certified, text) ← keyText? info
  let der ← (readBytes text).toOption
  let c ← (if certified then PublicCredential.ofCertificate der
    else PublicCredential.ofKeyInfo der).toOption
  match info.childText? "KeyName" with
  | some name => return c.withName (Text.trimmed name)
  | none => return c

/-- Reads a published key; nothing comes of one that cannot be read, but its use must be known. -/
def read (e : Element) : Except Failure (Option KeyDescriptor) := do
  let use ← KeyUse.ofText (e.attribute? "use")
  let encryptionMethods := (e.childrenNamed "EncryptionMethod").filterMap (·.attribute? "Algorithm")
  return ((e.child? "KeyInfo").bind readInfo?).map fun key =>
    { use, key, encryptionMethods }

end KeyDescriptor

/-- Reads an endpoint; one with an unknown binding or without a location is left out. -/
def Endpoint.read? (e : Element) : Option Endpoint := do
  let uri ← e.attribute? "Binding"
  let location ← e.attribute? "Location"
  return { binding := ← Binding.ofUri? uri, location }

namespace RoleDescriptor

/-- The known protocols in a list of URIs, each once. -/
def readProtocols (s : String) : List Protocol :=
  ((Text.words s.toList).filterMap fun word => Protocol.ofUri? (String.ofList word)).eraseDups

def read (role : Role) (e : Element) : Except Failure RoleDescriptor := do
  let keys ← (e.childrenNamed "KeyDescriptor").mapM KeyDescriptor.read
  return {
    role
    protocols := readProtocols ((e.attribute? "protocolSupportEnumeration").getD "")
    keys := keys.filterMap id
    endpoints := (e.childrenNamed (endpointElement role)).filterMap Endpoint.read? }

/-- The role that an element describes. -/
def role? (e : Element) : Option Role :=
  [Role.identityProvider, .serviceProvider].find? fun r => e.isNamed Ns.metadata r.descriptor

end RoleDescriptor

def Entity.read (e : Element) : Except Failure Entity := do
  let some entityId := e.attribute? "entityID"
    | throw (.metadata "EntityDescriptor has no entityID")
  let described := e.children.filterMap fun c => (RoleDescriptor.role? c).map fun r => (r, c)
  return { entityId, roles := ← described.mapM fun (r, c) => RoleDescriptor.read r c }

namespace Document

mutual

/-- The descriptors of entities that an element leads to through groups alone. -/
def descriptors : Element → List Element
  | ⟨ns?, name, attributes, children, text⟩ =>
    if ns? ≠ some Ns.metadata then []
    else if name = "EntitiesDescriptor" then descriptorsOfAll children
    else if name = "EntityDescriptor" then [⟨ns?, name, attributes, children, text⟩]
    else []

/-- The descriptors of entities that elements lead to. -/
def descriptorsOfAll : List Element → List Element
  | [] => []
  | e :: rest => descriptors e ++ descriptorsOfAll rest

end

/-- Reads the entities below a root element. -/
def ofElement (root : Element) : Except Failure Document := do
  if root.ns? ≠ some Ns.metadata then
    throw (.metadata ("unexpected metadata root: " ++ root.name))
  let entities ← (descriptors root).mapM Entity.read
  if entities.isEmpty then throw (.metadata "document contains no entities")
  return { entities }

/-- Reads a document. -/
def parse (s : String) : Except Failure Document :=
  match Element.parse s with
  | .ok root => ofElement root
  | .error fault => .error (.metadata (Failure.ofXml fault).message)

end Document

/-! ## Writing -/

def KeyDescriptor.keyNode (c : PublicCredential) : Node :=
  match c.certificate with
  | some der => .group "ds:X509Data" [] [bytesNode "ds:X509Certificate" [] der]
  | none => bytesNode "dsig11:DEREncodedKeyValue" [("xmlns:dsig11", Ns.signature11)] c.keyInfo

def KeyDescriptor.node (k : KeyDescriptor) : Node :=
  .group "md:KeyDescriptor" (optionalAttribute "use" k.use.text?)
    (.group "ds:KeyInfo" [("xmlns:ds", Ns.signature)]
      (optionalNode (.leaf "ds:KeyName" []) k.key.name ++ [keyNode k.key])
     :: k.encryptionMethods.map (algorithmNode "md:EncryptionMethod"))

def Endpoint.node (role : Role) (e : Endpoint) : Node :=
  .empty ("md:" ++ endpointElement role) [("Binding", e.binding.uri), ("Location", e.location)]

def RoleDescriptor.node (r : RoleDescriptor) : Node :=
  .group ("md:" ++ r.role.descriptor)
    [("protocolSupportEnumeration", " ".intercalate (r.protocols.map (·.uri)))]
    (r.keys.map KeyDescriptor.node ++ r.endpoints.map (Endpoint.node r.role))

/-- The declaration that the outermost element carries. -/
def declaration : List (String × String) := [("xmlns:md", Ns.metadata)]

def Entity.node (declared : List (String × String)) (e : Entity) : Node :=
  .group "md:EntityDescriptor" (declared ++ [("entityID", e.entityId)])
    (e.roles.map RoleDescriptor.node)

namespace Document

/-- A single entity stands alone, others in a group. -/
def node (d : Document) : Node :=
  match d.entities with
  | [e] => e.node declaration
  | entities => .group "md:EntitiesDescriptor" declaration (entities.map (Entity.node []))

/-- Writes a document. -/
def encode (d : Document) : String := d.node.render

end Document

end Federation.Metadata
