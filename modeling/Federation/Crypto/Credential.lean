import Federation.Crypto.Certificate
import Federation.Crypto.Pem
import Federation.Crypto.Secret
import Federation.Text.Quoted

/-!
# Credentials

A public key with the certificate and the name that came with it, and a private key with its public
half. Two credentials can hold the same key and differ in the rest.

    ofKeyInfo der = ok c implies c.keyInfo = der
-/

namespace Federation.Crypto

/-! ## Public credentials -/

/-- A public key, in the form in which it was published. -/
structure PublicCredential where
  family : KeyFamily
  /-- The written form of the published key. -/
  keyInfo : Bytes
  /-- The bits of the key alone. -/
  key : Bytes
  certificate : Option Bytes := none
  name : Option String := none
deriving DecidableEq, Repr

namespace PublicCredential

def ofKeyInfo (der : Bytes) : Except Failure PublicCredential := do
  let (family, key) ← KeyInfo.decode der
  return { family, keyInfo := der, key }

def ofCertificate (der : Bytes) : Except Failure PublicCredential := do
  let c ← ofKeyInfo (← Certificate.keyInfo der)
  return { c with certificate := some der }

/-- Reads a certificate or a public key. -/
def ofPem (s : String) : Except Failure PublicCredential := do
  let (label, der) ← Pem.decode s
  if label = "CERTIFICATE" then ofCertificate der
  else if label = "PUBLIC KEY" then ofKeyInfo der
  else throw (.invalidKey ("unexpected PEM label for a public key: " ++ label))

def withName (c : PublicCredential) (name : String) : PublicCredential :=
  { c with name := some name }

/-- A short identifier of the published key. -/
def keyId (c : PublicCredential) : String :=
  String.ofList (Text.Base64.encodeUrl ((DigestAlgorithm.sha256.digest c.keyInfo).take 8))

/-- Both hold the same key, whatever came with it. -/
def sameKey (a b : PublicCredential) : Bool := a.family = b.family && a.key = b.key

def toPem (c : PublicCredential) : String := Pem.encode "PUBLIC KEY" c.keyInfo

/-- The credential as records show it. -/
def shown (c : PublicCredential) : String :=
  "PublicCredential \x7b family: " ++ c.family.name ++ ", key_id: " ++ Text.quote c.keyId
    ++ ", has_certificate: " ++ toString c.certificate.isSome
    ++ ", key_name: " ++ Text.quoteOption c.name ++ " \x7d"

end PublicCredential

/-! ## Private credentials -/

/-- A private key with its public half. -/
structure PrivateCredential where
  /-- The written form of the key. -/
  pkcs8 : Bytes
  secret : Secret
  publicHalf : PublicCredential
deriving DecidableEq, Repr

namespace PrivateCredential

def family (c : PrivateCredential) : KeyFamily := c.secret.family

def ofPkcs8 (der : Bytes) : Except Failure PrivateCredential := do
  match Secret.read? der with
  | some secret =>
    return { pkcs8 := der, secret, publicHalf := ← PublicCredential.ofKeyInfo secret.keyInfo }
  | none => throw (.invalidKey "PKCS#8 key is not RSA, P-256, or P-384")

/-- Reads a private key that is not encrypted. -/
def ofPem (s : String) : Except Failure PrivateCredential := do
  let (label, der) ← Pem.decode s
  if label = "PRIVATE KEY" then ofPkcs8 der
  else if label = "ENCRYPTED PRIVATE KEY" then
    throw (.invalidKey "encrypted private keys are not supported")
  else throw (.invalidKey ("expected a PKCS#8 PRIVATE KEY block, found " ++ label))

def withName (c : PrivateCredential) (name : String) : PrivateCredential :=
  { c with publicHalf := c.publicHalf.withName name }

/-- Attaches the certificate of the key; its name stays. -/
def withCertificate (c : PrivateCredential) (der : Bytes) : Except Failure PrivateCredential := do
  let certified ← PublicCredential.ofCertificate der
  if certified.sameKey c.publicHalf then
    return { c with publicHalf := { certified with name := c.publicHalf.name } }
  else throw (.invalidKey "certificate does not match the private key")

/-- Attaches the certificate in a text, if it holds one and not a bare key. -/
def withCertificateIn (c : PrivateCredential) (pem : String) :
    Except Failure PrivateCredential := do
  match (← PublicCredential.ofPem pem).certificate with
  | some der => c.withCertificate der
  | none => return c

def certificate (c : PrivateCredential) : Option Bytes := c.publicHalf.certificate

def toPem (c : PrivateCredential) : String := Pem.encode "PRIVATE KEY" c.pkcs8

/-- The credential as records show it; the key itself stays out. -/
def shown (c : PrivateCredential) : String :=
  "PrivateCredential \x7b family: " ++ c.family.name ++ ", public: " ++ c.publicHalf.shown
    ++ ", .. \x7d"

end PrivateCredential

end Federation.Crypto
