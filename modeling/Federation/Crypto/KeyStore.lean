import Federation.Crypto.Credential
import Federation.Files

/-!
# Key stores

Credentials by alias, held in memory behind passwords or as PEM files in a directory. In a directory
the key of an alias `a` stands in `a.key.pem`, its certificate in `a.crt.pem` and a bare public key
in `a.pub.pem`; those files are not encrypted, so passwords do not matter there.
-/

namespace Federation.Crypto

/-- The aliases in order, each once. -/
def sortedAliases (aliases : List String) : List String :=
  (aliases.mergeSort fun a b => decide (a ≤ b)).eraseDups

/-! ## In memory -/

structure StoredKey where
  secret? : Option PrivateCredential
  published : PublicCredential
  password? : Option String
deriving DecidableEq, Repr

structure MemoryKeyStore where
  entries : List (String × StoredKey) := []
deriving DecidableEq, Repr

namespace MemoryKeyStore

/-- Puts a key under an alias, in place of one that was there. -/
def insert (store : MemoryKeyStore) (keyAlias : String) (key : StoredKey) : MemoryKeyStore :=
  ⟨(keyAlias, key) :: store.entries.filter fun entry => entry.1 != keyAlias⟩

def insertPrivate (store : MemoryKeyStore) (keyAlias : String) (c : PrivateCredential)
    (password? : Option String) : MemoryKeyStore :=
  store.insert keyAlias ⟨some c, c.publicHalf, password?⟩

def insertPublic (store : MemoryKeyStore) (keyAlias : String) (c : PublicCredential) :
    MemoryKeyStore :=
  store.insert keyAlias ⟨none, c, none⟩

def find (store : MemoryKeyStore) (keyAlias : String) : Except Failure StoredKey :=
  match store.entries.lookup keyAlias with
  | some key => .ok key
  | none => .error (.keyStore ("unknown alias: " ++ keyAlias))

/-- The private key; a missing password counts as the empty one. -/
def privateKey (store : MemoryKeyStore) (keyAlias : String) (password? : Option String) :
    Except Failure PrivateCredential := do
  let key ← store.find keyAlias
  if key.password?.any (· != password?.getD "") then
    throw (.keyStore ("wrong password for alias: " ++ keyAlias))
  match key.secret? with
  | some c => return c
  | none => throw (.keyStore ("no private key under alias: " ++ keyAlias))

def publicKey (store : MemoryKeyStore) (keyAlias : String) : Except Failure PublicCredential := do
  return (← store.find keyAlias).published

def aliases (store : MemoryKeyStore) : List String := sortedAliases (store.entries.map (·.1))

end MemoryKeyStore

/-! ## In a directory -/

/-- The files that an alias can have. -/
inductive KeyFile
  | secret
  | certificate
  | published
deriving DecidableEq, Repr

def KeyFile.ending : KeyFile → String
  | secret => ".key.pem"
  | certificate => ".crt.pem"
  | published => ".pub.pem"

def KeyFile.all : List KeyFile := [secret, certificate, published]

structure KeyDirectory where
  path : String
deriving DecidableEq, Repr

namespace KeyDirectory

/-- Aliases are parts of file names and must not lead out of the directory. -/
def isAlias (keyAlias : String) : Bool :=
  let cs := keyAlias.toList
  !cs.isEmpty && cs.all (fun c => c.isAlphanum || c = '-' || c = '_' || c = '.')
    && cs.head? != some '.'

def checkAlias (keyAlias : String) : Except Failure Unit :=
  if isAlias keyAlias then .ok () else .error (.keyStore ("invalid alias: " ++ Text.quote keyAlias))

/-- The path of a file of an alias. -/
def pathOf (d : KeyDirectory) (keyAlias : String) (file : KeyFile) : String :=
  Files.join d.path (keyAlias ++ file.ending)

/-- The content of a file, if it is there. -/
def content? (d : KeyDirectory) (files : Files) (keyAlias : String) (file : KeyFile) :
    Except Failure (Option String) :=
  match files.read (d.pathOf keyAlias file) with
  | .text s => .ok (some s)
  | .missing => .ok none
  | .unreadable reason =>
    .error (.keyStore ("cannot read " ++ d.pathOf keyAlias file ++ ": " ++ reason))

/-- The private key, with its certificate if there is one. -/
def privateKey (d : KeyDirectory) (files : Files) (keyAlias : String) :
    Except Failure PrivateCredential := do
  checkAlias keyAlias
  let some pem ← d.content? files keyAlias .secret
    | throw (.keyStore ("no private key under alias: " ++ keyAlias))
  let c := (← PrivateCredential.ofPem pem).withName keyAlias
  match ← d.content? files keyAlias .certificate with
  | some pem => c.withCertificateIn pem
  | none => return c

/-- The public key, from the first of its files that is there. -/
def publicKey (d : KeyDirectory) (files : Files) (keyAlias : String) :
    Except Failure PublicCredential := do
  checkAlias keyAlias
  if let some pem ← d.content? files keyAlias .certificate then
    return (← PublicCredential.ofPem pem).withName keyAlias
  if let some pem ← d.content? files keyAlias .published then
    return (← PublicCredential.ofPem pem).withName keyAlias
  if let some pem ← d.content? files keyAlias .secret then
    return (← PrivateCredential.ofPem pem).publicHalf.withName keyAlias
  throw (.keyStore ("unknown alias: " ++ keyAlias))

/-- What is written for a credential. -/
def contents (c : PrivateCredential) : List (KeyFile × String) :=
  [(.secret, c.toPem), (.published, c.publicHalf.toPem)]
    ++ (c.certificate.map fun der => (KeyFile.certificate, Pem.encode "CERTIFICATE" der)).toList

/-- Writes the files of a credential. -/
def store (d : KeyDirectory) (files : Files) (keyAlias : String) (c : PrivateCredential) :
    Except Failure Files := do
  checkAlias keyAlias
  if let .text _ := files.read d.path then
    throw (.keyStore "cannot create key directory: File exists")
  return (contents c).foldl (fun files (file, s) => files.write (d.pathOf keyAlias file) s) files

/-- The alias of a file name, if it has one of the endings. -/
def aliasOf? (name : String) : Option String :=
  KeyFile.all.findSome? fun file =>
    let ending := file.ending.toList
    if ending.isSuffixOf name.toList then
      some (String.ofList (name.toList.take (name.toList.length - ending.length)))
    else none

def aliases (d : KeyDirectory) (files : Files) : Except Failure (List String) :=
  match files.list? d.path with
  | some names => .ok (sortedAliases (names.filterMap aliasOf?))
  | none => .error (.keyStore "cannot list key directory: No such file or directory")

end KeyDirectory

end Federation.Crypto
