import Federation.Saml.Response
import Federation.Text.Base64

/-!
# Reading messages

Assertions and responses from their XML form. Unknown elements are skipped; of repeated ones the
first counts, except attributes and their values, which are all kept.

- `Assertion.decode` and `Response.decode` read a document of either protocol.
-/

namespace Federation.Saml

open Federation.Xml Federation.Time

/-! ## Values -/

/-- Reads a date and time. -/
def readInstant (s : String) : Except Failure Instant :=
  match Instant.parse? s with
  | some t => .ok t
  | none => .error (.ofXml (.timestamp s))

/-- Reads bytes in base64. -/
def readBytes (s : String) : Except Failure (List UInt8) :=
  match Text.Base64.decodeSpaced s.toList with
  | some bytes => .ok bytes
  | none => .error (.ofXml .base64)

/-- Applies a reader to a value that may be missing. -/
def readOptional {α β : Type} (read : α → Except Failure β) : Option α → Except Failure (Option β)
  | none => .ok none
  | some a => some <$> read a

def required (e : Element) (name : String) : Except Failure String :=
  liftXml (e.requiredAttribute name)

def optionalInstant (e : Element) (name : String) : Except Failure (Option Instant) :=
  readOptional readInstant (e.attribute? name)

/-- The window in a `Conditions` element. -/
def readValidity : Option Element → Except Failure (Option Validity)
  | none => .ok none
  | some e => do
    let notBefore ← optionalInstant e "NotBefore"
    let notOnOrAfter ← optionalInstant e "NotOnOrAfter"
    Validity.ofBounds notBefore notOnOrAfter

/-- An unknown format counts as none. -/
def readFormat (e : Element) : NameFormat :=
  ((e.attribute? "Format").bind NameFormat.ofUri?).getD .unspecified

/-! ## Signatures -/

/-- The algorithm that a child of a signature names. -/
def signatureMethod (e : Element) (name : String) : Except Failure String :=
  match (e.child? name).bind (·.attribute? "Algorithm") with
  | some uri => .ok uri
  | none => .error (.signatureEngine ("signature has no " ++ name))

/-- The key in a signature; a certificate goes before a bare key. -/
def readSignatureKey (info : Element) : Except Failure (Option SignatureKey) :=
  match (info.child? "X509Data").bind (·.childText? "X509Certificate") with
  | some text => (some ∘ SignatureKey.certificate) <$> readBytes text
  | none => readOptional (fun s => SignatureKey.publicKey <$> readBytes s)
      (info.childText? "DEREncodedKeyValue")

def readSignature (e : Element) : Except Failure SignatureRecord := do
  let some info := e.child? "SignedInfo"
    | .error (.signatureEngine "Signature has no SignedInfo")
  let some target := info.child? "Reference"
    | .error (.signatureEngine "SignedInfo has no Reference")
  let digest ← readOptional readBytes (target.childText? "DigestValue")
  let value ← readOptional readBytes (e.childText? "SignatureValue")
  let key ← match e.child? "KeyInfo" with
    | some keyInfo => readSignatureKey keyInfo
    | none => .ok none
  return {
    algorithm := ← signatureMethod info "SignatureMethod"
    canonicalization := ← signatureMethod info "CanonicalizationMethod"
    referenceUri := (target.attribute? "URI").getD ""
    digestAlgorithm := ← signatureMethod target "DigestMethod"
    digestValue := digest.getD []
    signatureValue := value.getD []
    keyInfo := key }

/-- The first signature among the children. -/
def signatureOf (e : Element) : Except Failure (Option SignatureRecord) :=
  readOptional readSignature (e.childIn? Ns.signature "Signature")

/-! ## Assertions -/

/-- The values of one attribute; without any it has the empty one. -/
def attributeValues (name : String) (e : Element) : List (String × String) :=
  match (e.childrenNamed "AttributeValue").map fun v => (name, v.text) with
  | [] => [(name, "")]
  | values => values

/-- All attributes of all statements, whose names stand in the XML attribute `key`. -/
def readAttributes (key : String) (statements : List Element) :
    Except Failure (List (String × String)) := do
  let groups ← (statements.flatMap (·.childrenNamed "Attribute")).mapM fun e => do
    let name ← required e key
    return attributeValues name e
  return groups.flatten

def readSubject20 (e : Element) : Subject :=
  let name := e.child? "NameID"
  let confirmation := e.child? "SubjectConfirmation"
  { identifier := (name.map (·.text)).getD ""
    format := (name.map readFormat).getD .unspecified
    confirmationMethod := (confirmation.bind (·.attribute? "Method")).getD ""
    sourceDomain := name.bind (·.attribute? "NameQualifier")
    destination :=
      (confirmation.bind (·.child? "SubjectConfirmationData")).bind (·.attribute? "Recipient") }

def readSubject11 (e : Element) : Subject :=
  let name := e.child? "NameIdentifier"
  let confirmation := e.child? "SubjectConfirmation"
  { identifier := (name.map (·.text)).getD ""
    format := (name.map readFormat).getD .unspecified
    confirmationMethod := (confirmation.bind (·.childText? "ConfirmationMethod")).getD ""
    sourceDomain := name.bind (·.attribute? "NameQualifier")
    destination := confirmation.bind (·.childText? "SubjectConfirmationData") }

def readAssertion20 (e : Element) : Except Failure Assertion := do
  let version ← required e "Version"
  if version ≠ "2.0" then
    throw (.invalidAssertion ("unsupported assertion version " ++ version))
  let attributes ← readAttributes "Name" (e.childrenNamed "AttributeStatement")
  return {
    id := ← required e "ID"
    protocol := .saml20
    issueInstant := ← readInstant (← required e "IssueInstant")
    issuer := e.childText? "Issuer"
    subject := (e.child? "Subject").map readSubject20
    validity := ← readValidity (e.child? "Conditions")
    authnContextClass := ((e.child? "AuthnStatement").bind (·.child? "AuthnContext")).bind
      (·.childText? "AuthnContextClassRef")
    attributes
    signature := ← signatureOf e }

def readAssertion11 (e : Element) : Except Failure Assertion := do
  let major ← required e "MajorVersion"
  let minor ← required e "MinorVersion"
  if major ≠ "1" ∨ (minor ≠ "0" ∧ minor ≠ "1") then
    throw (.invalidAssertion ("unsupported assertion version " ++ major ++ "." ++ minor))
  let authentication := e.child? "AuthenticationStatement"
  let statements := e.childrenNamed "AttributeStatement"
  let attributes ← readAttributes "AttributeName" statements
  return {
    id := ← required e "AssertionID"
    protocol := .saml11
    issueInstant := ← readInstant (← required e "IssueInstant")
    issuer := e.attribute? "Issuer"
    subject := ((authentication.bind (·.child? "Subject")).or
      (statements.findSome? (·.child? "Subject"))).map readSubject11
    validity := ← readValidity (e.child? "Conditions")
    authnContextClass := (authentication.bind (·.attribute? "AuthenticationMethod")).filter
      (· ≠ unspecifiedMethod11)
    attributes
    signature := ← signatureOf e }

/-- Reads an assertion of either protocol. -/
def readAssertion (e : Element) : Except Failure Assertion :=
  if e.isNamed Ns.assertion20 "Assertion" then readAssertion20 e
  else if e.isNamed Ns.assertion11 "Assertion" then readAssertion11 e
  else .error (.xmlParse ("expected an Assertion element, found " ++ e.name))

/-! ## Encrypted assertions -/

def encryptionMethod (e : Element) : Except Failure String :=
  match (e.child? "EncryptionMethod").bind (·.attribute? "Algorithm") with
  | some uri => .ok uri
  | none => .error (.xmlParse (e.name ++ " has no EncryptionMethod"))

def cipherValue (e : Element) : Except Failure (List UInt8) :=
  match (e.child? "CipherData").bind (·.childText? "CipherValue") with
  | some text => readBytes text
  | none => .error (.xmlParse (e.name ++ " has no CipherValue"))

def readEncryptedKey (e : Element) : Except Failure EncryptedKey := do
  return {
    id := e.attribute? "Id"
    recipient := e.attribute? "Recipient"
    algorithm := ← encryptionMethod e
    keyName := (e.child? "KeyInfo").bind (·.childText? "KeyName")
    carriedKeyName := e.childText? "CarriedKeyName"
    cipherValue := ← cipherValue e }

/-- The reference in a `KeyInfo` element: a key, a retrieval method or a name, in this order. -/
def readKeyReference (info : Element) : Except Failure (Option KeyReference) :=
  match info.child? "EncryptedKey", info.child? "RetrievalMethod" with
  | some key, _ => (some ∘ KeyReference.inline) <$> readEncryptedKey key
  | none, some method => (some ∘ KeyReference.retrievalMethod) <$> required method "URI"
  | none, none => .ok ((info.childText? "KeyName").map .keyName)

def readEncryptedAssertion (e : Element) : Except Failure EncryptedAssertion := do
  let some data := e.childIn? Ns.encryption "EncryptedData"
    | .error (.xmlParse "EncryptedAssertion has no EncryptedData")
  let keyInfo ← match data.child? "KeyInfo" with
    | some info => readKeyReference info
    | none => .ok none
  let keys ← (e.childrenIn Ns.encryption "EncryptedKey").mapM readEncryptedKey
  return {
    data :=
      { id := data.attribute? "Id"
        algorithm := ← encryptionMethod data
        keyInfo
        cipherValue := ← cipherValue data }
    keys }

/-! ## Responses -/

def readStatus (e : Element) : Except Failure Status :=
  match ((e.child? "Status").bind (·.child? "StatusCode")).bind (·.attribute? "Value") with
  | some value => .ok (Status.ofValue value)
  | none => .error (.xmlParse "response has no status code")

/-- The payload of a SAML 2.0 response; a plain assertion goes before an encrypted one. -/
def readPayload20 (e : Element) : Except Failure (Option Payload) :=
  match e.childIn? Ns.assertion20 "Assertion", e.childIn? Ns.assertion20 "EncryptedAssertion" with
  | some a, _ => (some ∘ Payload.plain) <$> readAssertion20 a
  | none, some x => (some ∘ Payload.encrypted) <$> readEncryptedAssertion x
  | none, none => .ok none

def readResponse20 (e : Element) : Except Failure Response := do
  let version ← required e "Version"
  if version ≠ "2.0" then
    throw (.invalidAssertion ("unsupported response version " ++ version))
  let payload ← readPayload20 e
  return {
    id := ← required e "ID"
    protocol := .saml20
    issueInstant := ← readInstant (← required e "IssueInstant")
    issuer := e.childText? "Issuer"
    destination := e.attribute? "Destination"
    inResponseTo := e.attribute? "InResponseTo"
    status := ← readStatus e
    payload
    signature := ← signatureOf e }

def readResponse11 (e : Element) : Except Failure Response := do
  let major ← required e "MajorVersion"
  if major ≠ "1" then
    throw (.invalidAssertion ("unsupported response version " ++ major))
  let payload ← readOptional (fun a => Payload.plain <$> readAssertion11 a)
    (e.childIn? Ns.assertion11 "Assertion")
  return {
    id := ← required e "ResponseID"
    protocol := .saml11
    issueInstant := ← readInstant (← required e "IssueInstant")
    destination := e.attribute? "Recipient"
    inResponseTo := e.attribute? "InResponseTo"
    status := ← readStatus e
    payload
    signature := ← signatureOf e }

/-- Reads a response of either protocol. -/
def readResponse (e : Element) : Except Failure Response :=
  if e.isNamed Ns.protocol20 "Response" then readResponse20 e
  else if e.isNamed Ns.protocol11 "Response" then readResponse11 e
  else .error (.xmlParse ("expected a Response element, found " ++ e.name))

/-! ## Documents -/

/-- Reads the text of an assertion. -/
def Assertion.decode (s : String) : Except Failure Assertion :=
  liftXml (Element.parse s) >>= readAssertion

/-- Reads the text of a response. -/
def Response.decode (s : String) : Except Failure Response :=
  liftXml (Element.parse s) >>= readResponse

end Federation.Saml
