import Federation.Saml.Failure

/-!
# Vocabulary

The names that SAML gives to protocols, roles, bindings, identifier formats and key uses, and the
URIs of its namespaces.
-/

namespace Federation.Saml

/-! ## Namespaces and identifiers -/

/-- XML namespaces. -/
def Ns.assertion20 : String := "urn:oasis:names:tc:SAML:2.0:assertion"

def Ns.protocol20 : String := "urn:oasis:names:tc:SAML:2.0:protocol"

def Ns.assertion11 : String := "urn:oasis:names:tc:SAML:1.0:assertion"

def Ns.protocol11 : String := "urn:oasis:names:tc:SAML:1.0:protocol"

def Ns.metadata : String := "urn:oasis:names:tc:SAML:2.0:metadata"

def Ns.signature : String := "http://www.w3.org/2000/09/xmldsig#"

def Ns.signature11 : String := "http://www.w3.org/2009/xmldsig11#"

def Ns.encryption : String := "http://www.w3.org/2001/04/xmlenc#"

/-- Exclusive canonicalization without comments. -/
def exclusiveCanonicalization : String := "http://www.w3.org/2001/10/xml-exc-c14n#"

def envelopedSignature : String := "http://www.w3.org/2000/09/xmldsig#enveloped-signature"

/-- The type of an encrypted element. -/
def encryptedElementType : String := "http://www.w3.org/2001/04/xmlenc#Element"

/-- The type that a reference to a wrapped key has. -/
def encryptedKeyType : String := "http://www.w3.org/2001/04/xmlenc#EncryptedKey"

/-- The authentication method of SAML 1.x that says nothing. -/
def unspecifiedMethod11 : String := "urn:oasis:names:tc:SAML:1.0:am:unspecified"

/-- The namespace of attribute names in SAML 1.1. -/
def attributeNamespace11 : String := "urn:mace:shibboleth:1.0:attributeNamespace:uri"

/-! ## Bindings -/

inductive Binding
  | httpPost
  | httpRedirect
  | httpArtifact
  | soap
  | browserPost11
  | browserArtifact11
deriving DecidableEq, Repr

namespace Binding

def uri : Binding → String
  | httpPost => "urn:oasis:names:tc:SAML:2.0:bindings:HTTP-POST"
  | httpRedirect => "urn:oasis:names:tc:SAML:2.0:bindings:HTTP-Redirect"
  | httpArtifact => "urn:oasis:names:tc:SAML:2.0:bindings:HTTP-Artifact"
  | soap => "urn:oasis:names:tc:SAML:2.0:bindings:SOAP"
  | browserPost11 => "urn:oasis:names:tc:SAML:1.0:profiles:browser-post"
  | browserArtifact11 => "urn:oasis:names:tc:SAML:1.0:profiles:artifact-01"

def all : List Binding :=
  [httpPost, httpRedirect, httpArtifact, soap, browserPost11, browserArtifact11]

def ofUri? (s : String) : Option Binding := all.find? (·.uri == s)

end Binding

/-! ## Protocols -/

inductive Protocol
  | saml11
  | saml20
deriving DecidableEq, Repr

namespace Protocol

/-- The name in audit records and messages. -/
def name : Protocol → String
  | saml11 => "SAML1.1"
  | saml20 => "SAML2.0"

/-- The URI by which metadata says that a descriptor supports the protocol. -/
def uri : Protocol → String
  | saml11 => "urn:oasis:names:tc:SAML:1.1:protocol"
  | saml20 => Ns.protocol20

/-- Reads a URI of metadata; the one of SAML 1.0 stands for the 1.x family. -/
def ofUri? (s : String) : Option Protocol :=
  if s = saml20.uri then some saml20
  else if s = saml11.uri ∨ s = Ns.protocol11 then some saml11
  else none

/-- Reads the name in a configuration, in any case of its letters. -/
def ofSetting? (s : String) : Option Protocol :=
  let s := s.toLower
  if s = "saml2.0" ∨ s = "saml2" then some saml20
  else if s = "saml1.1" ∨ s = "saml1" then some saml11
  else none

/-- The binding that assertions are delivered over unless another is set. -/
def defaultBinding : Protocol → Binding
  | saml11 => .browserPost11
  | saml20 => .httpPost

/-- The method of a subject that whoever presents the assertion is. -/
def bearer : Protocol → String
  | saml11 => "urn:oasis:names:tc:SAML:1.0:cm:bearer"
  | saml20 => "urn:oasis:names:tc:SAML:2.0:cm:bearer"

end Protocol

/-! ## Roles -/

inductive Role
  | identityProvider
  | serviceProvider
deriving DecidableEq, Repr

namespace Role

def name : Role → String
  | identityProvider => "IdP"
  | serviceProvider => "SP"

/-- The element of metadata that describes the role. -/
def descriptor : Role → String
  | identityProvider => "IDPSSODescriptor"
  | serviceProvider => "SPSSODescriptor"

end Role

/-! ## Identifier formats -/

inductive NameFormat
  | unspecified
  | email
  | x509SubjectName
  | windowsDomainQualifiedName
  | kerberos
  | entity
  | persistent
  | transient
deriving DecidableEq, Repr

namespace NameFormat

def uri : NameFormat → String
  | unspecified => "urn:oasis:names:tc:SAML:1.1:nameid-format:unspecified"
  | email => "urn:oasis:names:tc:SAML:1.1:nameid-format:emailAddress"
  | x509SubjectName => "urn:oasis:names:tc:SAML:1.1:nameid-format:X509SubjectName"
  | windowsDomainQualifiedName =>
    "urn:oasis:names:tc:SAML:1.1:nameid-format:WindowsDomainQualifiedName"
  | kerberos => "urn:oasis:names:tc:SAML:2.0:nameid-format:kerberos"
  | entity => "urn:oasis:names:tc:SAML:2.0:nameid-format:entity"
  | persistent => "urn:oasis:names:tc:SAML:2.0:nameid-format:persistent"
  | transient => "urn:oasis:names:tc:SAML:2.0:nameid-format:transient"

/-- The name in the JSON form of an assertion. -/
def name : NameFormat → String
  | unspecified => "Unspecified"
  | email => "Email"
  | x509SubjectName => "X509SubjectName"
  | windowsDomainQualifiedName => "WindowsDomainQualifiedName"
  | kerberos => "Kerberos"
  | entity => "Entity"
  | persistent => "Persistent"
  | transient => "Transient"

def all : List NameFormat :=
  [unspecified, email, x509SubjectName, windowsDomainQualifiedName, kerberos, entity, persistent,
   transient]

def ofUri? (s : String) : Option NameFormat := all.find? (·.uri == s)

end NameFormat

/-! ## Key uses -/

/-- What a published key is for; one without a use serves every purpose. -/
inductive KeyUse
  | signing
  | encryption
  | unspecified
deriving DecidableEq, Repr

namespace KeyUse

def text? : KeyUse → Option String
  | signing => some "signing"
  | encryption => some "encryption"
  | unspecified => none

def ofText : Option String → Except Failure KeyUse
  | none => .ok unspecified
  | some s =>
    if s = "signing" then .ok signing
    else if s = "encryption" then .ok encryption
    else .error (.metadata ("unknown key use: " ++ s))

/-- A key with the first use may serve the second. -/
def permits (use wanted : KeyUse) : Bool :=
  use = unspecified || wanted = unspecified || use = wanted

end KeyUse

end Federation.Saml
