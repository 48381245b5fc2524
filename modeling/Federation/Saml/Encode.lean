import Federation.Saml.Response
import Federation.Text.Base64
import Federation.Xml.Canonical
import Federation.Xml.Writer

/-!
# Writing messages

The XML form of assertions and responses. The same object always has the same text, and signatures
rely on that: they cover the canonical text of an object without its signature.

- `Assertion.encode` and `Response.encode` write the whole object.
- `Assertion.canonicalText` and `Response.canonicalText` are what a signature of theirs covers.
- `SignatureRecord.signedText` is what the signature value covers.
-/

namespace Federation.Saml

open Federation.Xml Federation.Time

/-- An attribute that is written only if it has a value. -/
def optionalAttribute (name : String) : Option String → List (String × String)
  | none => []
  | some value => [(name, value)]

/-- An element that is written only if there is something to write. -/
def optionalNode {α : Type} (write : α → Node) : Option α → List Node
  | none => []
  | some a => [write a]

/-- An element that holds bytes. -/
def bytesNode (name : String) (attributes : List (String × String)) (bytes : List UInt8) : Node :=
  .leaf name attributes (Text.Base64.encodeText bytes)

/-- An element that names an algorithm. -/
def algorithmNode (name uri : String) : Node := .empty name [("Algorithm", uri)]

/-! ## Signatures -/

/-- The signed part of a signature. -/
def SignatureRecord.signedNode (s : SignatureRecord) (attributes : List (String × String)) : Node :=
  .group "ds:SignedInfo" attributes
    [algorithmNode "ds:CanonicalizationMethod" s.canonicalization,
     algorithmNode "ds:SignatureMethod" s.algorithm,
     .group "ds:Reference" [("URI", s.referenceUri)]
      [.group "ds:Transforms" []
        [algorithmNode "ds:Transform" envelopedSignature,
         algorithmNode "ds:Transform" s.canonicalization],
       algorithmNode "ds:DigestMethod" s.digestAlgorithm,
       bytesNode "ds:DigestValue" [] s.digestValue]]

def SignatureKey.node : SignatureKey → Node
  | .certificate der =>
    .group "ds:KeyInfo" [] [.group "ds:X509Data" [] [bytesNode "ds:X509Certificate" [] der]]
  | .publicKey der =>
    .group "ds:KeyInfo" []
      [bytesNode "dsig11:DEREncodedKeyValue" [("xmlns:dsig11", Ns.signature11)] der]

def SignatureRecord.node (s : SignatureRecord) : Node :=
  .group "ds:Signature" [("xmlns:ds", Ns.signature)]
    (s.signedNode [] :: bytesNode "ds:SignatureValue" [] s.signatureValue
      :: optionalNode SignatureKey.node s.keyInfo)

/-- The canonical text that the signature value covers. -/
def SignatureRecord.signedText (s : SignatureRecord) : String :=
  canonicalize (s.signedNode [("xmlns:ds", Ns.signature)]).render

/-! ## Assertions -/

def Validity.node (name : String) (v : Validity) : Node :=
  .empty name [("NotBefore", v.notBefore.format), ("NotOnOrAfter", v.notOnOrAfter.format)]

/-- The identifier of a subject with its format and domain. -/
def Subject.nameNode (name : String) (s : Subject) : Node :=
  .leaf name (("Format", s.format.uri) :: optionalAttribute "NameQualifier" s.sourceDomain)
    s.identifier

def Subject.node20 (s : Subject) : Node :=
  .group "saml:Subject" []
    [s.nameNode "saml:NameID",
     .group "saml:SubjectConfirmation" [("Method", s.confirmationMethod)]
      (optionalNode (fun d => .empty "saml:SubjectConfirmationData" [("Recipient", d)])
        s.destination)]

def Subject.node11 (s : Subject) : Node :=
  .group "saml1:Subject" []
    [s.nameNode "saml1:NameIdentifier",
     .group "saml1:SubjectConfirmation" []
      (.leaf "saml1:ConfirmationMethod" [] s.confirmationMethod
        :: optionalNode (.leaf "saml1:SubjectConfirmationData" []) s.destination)]

def attributeNode20 (a : String × String) : Node :=
  .group "saml:Attribute" [("Name", a.1)] [.leaf "saml:AttributeValue" [] a.2]

def attributeNode11 (a : String × String) : Node :=
  .group "saml1:Attribute" [("AttributeName", a.1), ("AttributeNamespace", attributeNamespace11)]
    [.leaf "saml1:AttributeValue" [] a.2]

/-- Elements that stand only if `present` holds. -/
def nodesIf (present : Bool) (nodes : List Node) : List Node := if present then nodes else []

def Assertion.node20 (a : Assertion) (signature : Option SignatureRecord) : Node :=
  .group "saml:Assertion"
    [("xmlns:saml", Ns.assertion20), ("ID", a.id), ("Version", "2.0"),
     ("IssueInstant", a.issueInstant.format)]
    (optionalNode (.leaf "saml:Issuer" []) a.issuer
      ++ optionalNode SignatureRecord.node signature
      ++ optionalNode Subject.node20 a.subject
      ++ optionalNode (Validity.node "saml:Conditions") a.validity
      ++ optionalNode
        (fun c => .group "saml:AuthnStatement" [("AuthnInstant", a.issueInstant.format)]
          [.group "saml:AuthnContext" [] [.leaf "saml:AuthnContextClassRef" [] c]])
        a.authnContextClass
      ++ nodesIf (!a.attributes.isEmpty)
        [.group "saml:AttributeStatement" [] (a.attributes.map attributeNode20)])

def Assertion.node11 (a : Assertion) (signature : Option SignatureRecord) : Node :=
  .group "saml1:Assertion"
    ([("xmlns:saml1", Ns.assertion11), ("MajorVersion", "1"), ("MinorVersion", "1"),
      ("AssertionID", a.id)]
      ++ optionalAttribute "Issuer" a.issuer ++ [("IssueInstant", a.issueInstant.format)])
    (optionalNode (Validity.node "saml1:Conditions") a.validity
      ++ nodesIf (a.subject.isSome || a.authnContextClass.isSome)
        [.group "saml1:AuthenticationStatement"
          [("AuthenticationMethod", a.authnContextClass.getD unspecifiedMethod11),
           ("AuthenticationInstant", a.issueInstant.format)]
          (optionalNode Subject.node11 a.subject)]
      ++ nodesIf (!a.attributes.isEmpty)
        [.group "saml1:AttributeStatement" []
          (optionalNode Subject.node11 a.subject ++ a.attributes.map attributeNode11)]
      ++ optionalNode SignatureRecord.node signature)

/-- The element of an assertion with a given signature in it. -/
def Assertion.node (a : Assertion) (signature : Option SignatureRecord) : Node :=
  match a.protocol with
  | .saml20 => a.node20 signature
  | .saml11 => a.node11 signature

/-- The text of an assertion, signature included. -/
def Assertion.encode (a : Assertion) : String := (a.node a.signature).render

/-- The canonical text of an assertion without its signature. -/
def Assertion.canonicalText (a : Assertion) : String := canonicalize (a.node none).render

/-! ## Encrypted assertions -/

def cipherNode (bytes : List UInt8) : Node :=
  .group "xenc:CipherData" [] [bytesNode "xenc:CipherValue" [] bytes]

def keyNameNode (name : String) : Node := .leaf "ds:KeyName" [] name

def EncryptedKey.node (k : EncryptedKey) : Node :=
  .group "xenc:EncryptedKey"
    (("xmlns:xenc", Ns.encryption)
      :: (optionalAttribute "Id" k.id ++ optionalAttribute "Recipient" k.recipient))
    (algorithmNode "xenc:EncryptionMethod" k.algorithm
      :: (optionalNode
          (fun name => .group "ds:KeyInfo" [("xmlns:ds", Ns.signature)] [keyNameNode name])
          k.keyName
        ++ cipherNode k.cipherValue
        :: optionalNode (.leaf "xenc:CarriedKeyName" []) k.carriedKeyName))

def KeyReference.node : KeyReference → Node
  | .inline key => key.node
  | .retrievalMethod uri => .empty "ds:RetrievalMethod" [("URI", uri), ("Type", encryptedKeyType)]
  | .keyName name => keyNameNode name

def EncryptedData.node (d : EncryptedData) : Node :=
  .group "xenc:EncryptedData"
    (("xmlns:xenc", Ns.encryption)
      :: (optionalAttribute "Id" d.id ++ [("Type", encryptedElementType)]))
    (algorithmNode "xenc:EncryptionMethod" d.algorithm
      :: (optionalNode (fun r => .group "ds:KeyInfo" [("xmlns:ds", Ns.signature)]
            [KeyReference.node r]) d.keyInfo
        ++ [cipherNode d.cipherValue]))

def EncryptedAssertion.node (e : EncryptedAssertion) : Node :=
  .group "saml:EncryptedAssertion" [("xmlns:saml", Ns.assertion20)]
    (e.data.node :: e.keys.map EncryptedKey.node)

/-! ## Responses -/

def statusNode (element code : String) (status : Status) (protocol : Protocol) : Node :=
  .group element [] [.empty code [("Value", status.value protocol)]]

def Payload.node : Payload → Node
  | .plain a => a.node a.signature
  | .encrypted e => e.node

def Response.node20 (r : Response) (signature : Option SignatureRecord) : Node :=
  .group "samlp:Response"
    ([("xmlns:samlp", Ns.protocol20), ("xmlns:saml", Ns.assertion20), ("ID", r.id),
      ("Version", "2.0"), ("IssueInstant", r.issueInstant.format)]
      ++ optionalAttribute "Destination" r.destination
      ++ optionalAttribute "InResponseTo" r.inResponseTo)
    (optionalNode (.leaf "saml:Issuer" []) r.issuer
      ++ optionalNode SignatureRecord.node signature
      ++ statusNode "samlp:Status" "samlp:StatusCode" r.status .saml20
      :: optionalNode Payload.node r.payload)

def Response.node11 (r : Response) (signature : Option SignatureRecord) : Node :=
  .group "samlp1:Response"
    ([("xmlns:samlp1", Ns.protocol11), ("MajorVersion", "1"), ("MinorVersion", "1"),
      ("ResponseID", r.id), ("IssueInstant", r.issueInstant.format)]
      ++ optionalAttribute "Recipient" r.destination
      ++ optionalAttribute "InResponseTo" r.inResponseTo)
    (optionalNode SignatureRecord.node signature
      ++ statusNode "samlp1:Status" "samlp1:StatusCode" r.status .saml11
      :: optionalNode Payload.node r.payload)

/-- The element of a response with a given signature in it. SAML 1.1 has no encrypted assertions. -/
def Response.node (r : Response) (signature : Option SignatureRecord) : Except Failure Node :=
  match r.protocol, r.payload with
  | .saml20, _ => .ok (r.node20 signature)
  | .saml11, some (.encrypted _) =>
    .error (.encryption "SAML 1.1 responses cannot carry encrypted assertions")
  | .saml11, _ => .ok (r.node11 signature)

/-- The text of a response, signatures included. -/
def Response.encode (r : Response) : Except Failure String := Node.render <$> r.node r.signature

/-- The canonical text of a response without its own signature. -/
def Response.canonicalText (r : Response) : Except Failure String :=
  (canonicalize ∘ Node.render) <$> r.node none

end Federation.Saml
