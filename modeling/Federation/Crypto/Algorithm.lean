/-!
# Algorithms

The algorithms that messages name by a URI, and which keys they fit. Two old algorithms are known by
their URIs only so that refusing them can say why.
-/

namespace Federation.Crypto

/-- Why a cryptographic operation fails. A failed decryption tells nothing more, so nobody can learn
which of its steps went wrong. -/
inductive Failure
  | invalidKey (detail : String)
  | unsupportedAlgorithm (detail : String)
  | encryption (detail : String)
  | decryption
  | signing (detail : String)
  | keyStore (detail : String)
deriving DecidableEq, Repr

/-- The wording of a failure. -/
def Failure.message : Failure → String
  | .invalidKey s => "invalid key: " ++ s
  | .unsupportedAlgorithm s => "algorithm not supported: " ++ s
  | .encryption s => "encryption failed: " ++ s
  | .decryption => "decryption failed"
  | .signing s => "signing failed: " ++ s
  | .keyStore s => "key store error: " ++ s

/-! ## Digests -/

inductive DigestAlgorithm
  | sha256
  | sha384
  | sha512
deriving DecidableEq, Repr

namespace DigestAlgorithm

def uri : DigestAlgorithm → String
  | sha256 => "http://www.w3.org/2001/04/xmlenc#sha256"
  | sha384 => "http://www.w3.org/2001/04/xmldsig-more#sha384"
  | sha512 => "http://www.w3.org/2001/04/xmlenc#sha512"

def all : List DigestAlgorithm := [sha256, sha384, sha512]

def ofUri? (s : String) : Option DigestAlgorithm := all.find? (·.uri == s)

/-- The length of a digest in bytes. -/
def size : DigestAlgorithm → Nat
  | sha256 => 32
  | sha384 => 48
  | sha512 => 64

end DigestAlgorithm

/-! ## Signatures -/

inductive SignatureAlgorithm
  | rsaSha256
  | rsaSha384
  | rsaSha512
  | ecdsaSha256
  | ecdsaSha384
deriving DecidableEq, Repr

namespace SignatureAlgorithm

def uri : SignatureAlgorithm → String
  | rsaSha256 => "http://www.w3.org/2001/04/xmldsig-more#rsa-sha256"
  | rsaSha384 => "http://www.w3.org/2001/04/xmldsig-more#rsa-sha384"
  | rsaSha512 => "http://www.w3.org/2001/04/xmldsig-more#rsa-sha512"
  | ecdsaSha256 => "http://www.w3.org/2001/04/xmldsig-more#ecdsa-sha256"
  | ecdsaSha384 => "http://www.w3.org/2001/04/xmldsig-more#ecdsa-sha384"

/-- The name that messages about a mismatch show. -/
def name : SignatureAlgorithm → String
  | rsaSha256 => "RsaSha256"
  | rsaSha384 => "RsaSha384"
  | rsaSha512 => "RsaSha512"
  | ecdsaSha256 => "EcdsaSha256"
  | ecdsaSha384 => "EcdsaSha384"

def all : List SignatureAlgorithm := [rsaSha256, rsaSha384, rsaSha512, ecdsaSha256, ecdsaSha384]

/-- Known only to be refused. -/
def rsaSha1Uri : String := "http://www.w3.org/2000/09/xmldsig#rsa-sha1"

def ofUri (s : String) : Except Failure SignatureAlgorithm :=
  match all.find? (·.uri == s) with
  | some a => .ok a
  | none => .error (.unsupportedAlgorithm
      (if s = rsaSha1Uri then "RSA-SHA1 signatures are refused" else s))

def digest : SignatureAlgorithm → DigestAlgorithm
  | rsaSha256 | ecdsaSha256 => .sha256
  | rsaSha384 | ecdsaSha384 => .sha384
  | rsaSha512 => .sha512

end SignatureAlgorithm

/-! ## Keys -/

inductive KeyFamily
  | rsa
  | ecP256
  | ecP384
deriving DecidableEq, Repr

namespace KeyFamily

def name : KeyFamily → String
  | rsa => "Rsa"
  | ecP256 => "EcP256"
  | ecP384 => "EcP384"

def all : List KeyFamily := [rsa, ecP256, ecP384]

def ofName? (s : String) : Option KeyFamily := all.find? (·.name == s)

/-- The algorithm that keys of a family sign with. -/
def signatureAlgorithm : KeyFamily → SignatureAlgorithm
  | rsa => .rsaSha256
  | ecP256 => .ecdsaSha256
  | ecP384 => .ecdsaSha384

/-- Only RSA keys wrap session keys. -/
def supportsKeyTransport (f : KeyFamily) : Bool := f = rsa

end KeyFamily

/-- Keys of the family can be used with the algorithm. -/
def SignatureAlgorithm.fits : SignatureAlgorithm → KeyFamily → Bool
  | .rsaSha256, .rsa | .rsaSha384, .rsa | .rsaSha512, .rsa => true
  | .ecdsaSha256, .ecP256 | .ecdsaSha384, .ecP384 => true
  | _, _ => false

/-! ## Encryption -/

/-- Algorithms that wrap a session key. -/
inductive KeyTransport
  /-- RSA-OAEP with SHA-1 throughout. -/
  | rsaOaepMgf1p
  /-- RSA-OAEP with SHA-256 throughout. -/
  | rsaOaep
deriving DecidableEq, Repr

namespace KeyTransport

def uri : KeyTransport → String
  | rsaOaepMgf1p => "http://www.w3.org/2001/04/xmlenc#rsa-oaep-mgf1p"
  | rsaOaep => "http://www.w3.org/2009/xmlenc11#rsa-oaep"

def all : List KeyTransport := [rsaOaepMgf1p, rsaOaep]

/-- Known only to be refused. -/
def rsa15Uri : String := "http://www.w3.org/2001/04/xmlenc#rsa-1_5"

def ofUri (s : String) : Except Failure KeyTransport :=
  match all.find? (·.uri == s) with
  | some a => .ok a
  | none => .error (.unsupportedAlgorithm
      (if s = rsa15Uri then "RSA PKCS#1 v1.5 key transport is refused" else s))

/-- The URI names a way to wrap keys, supported or not. -/
def isKeyTransportUri (s : String) : Bool := s == rsa15Uri || (ofUri s).isOk

end KeyTransport

/-- Algorithms that encrypt the payload. -/
inductive DataEncryption
  | aes128Gcm
  | aes256Gcm
deriving DecidableEq, Repr

namespace DataEncryption

def uri : DataEncryption → String
  | aes128Gcm => "http://www.w3.org/2009/xmlenc11#aes128-gcm"
  | aes256Gcm => "http://www.w3.org/2009/xmlenc11#aes256-gcm"

def all : List DataEncryption := [aes128Gcm, aes256Gcm]

def ofUri (s : String) : Except Failure DataEncryption :=
  match all.find? (·.uri == s) with
  | some a => .ok a
  | none => .error (.unsupportedAlgorithm s)

/-- The length of a session key in bytes. -/
def keySize : DataEncryption → Nat
  | aes128Gcm => 16
  | aes256Gcm => 32

end DataEncryption

end Federation.Crypto
