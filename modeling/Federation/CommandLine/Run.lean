import Federation.CommandLine.Invocation
import Federation.Crypto.Generation
import Federation.Installation
import Federation.Saml.Report

/-!
# Runs

A run of the program as a function of the files, the clock and random values: what it prints, what
it notes beside that, which files there are afterwards, and the code it exits with.
-/

namespace Federation.CommandLine

open Federation.Saml Federation.Metadata Federation.Exchange
open Federation.Crypto (Suite Random PrivateCredential)
open Federation.Time (Instant Duration)
open Federation.Text (Json)

/-! ## Outcomes -/

/-- A line for the person at the keyboard. -/
inductive Note
  | success (s : String)
  | failure (s : String)
  | info (s : String)
deriving DecidableEq, Repr

def Note.line : Note → String
  | success s => "✓ " ++ s
  | failure s => "✗ " ++ s
  | info s => "ℹ " ++ s

structure Outcome where
  files : Files
  notes : List Note := []
  output : Option String := none
  exitCode : Nat := 0

/-- What a run finds around it. -/
structure Environment where
  files : Files
  now : Instant
  random : Random
  /-- The variable that names the file of settings. -/
  configVariable : Option String := none

/-! ## Commands -/

def KeyChoice.generate (random : Random) : KeyChoice → Except Crypto.Failure PrivateCredential
  | .rsa2048 => PrivateCredential.generateRsa random 2048
  | .rsa3072 => PrivateCredential.generateRsa random 3072
  | .rsa4096 => PrivateCredential.generateRsa random 4096
  | .p256 => PrivateCredential.generate random .ecP256
  | .p384 => PrivateCredential.generate random .ecP384

def makeKey (i : Installation) (e : Environment) (keyAlias : String) (key : KeyChoice) :
    Except CommandFailure Outcome := do
  let c ← key.generate e.random
  let files ← i.keys.store e.files keyAlias c
  return { files, notes := [.success ("Stored key pair '" ++ keyAlias ++ "'"),
    .info ("Key id " ++ c.publicHalf.keyId ++ " in " ++ i.keys.path)] }

def endpointReport (e : Endpoint) : Json :=
  .object [("binding", .text e.binding.uri), ("location", .text e.location)]

/-- What is trusted about an entity, with its endpoints in the order of their bindings. -/
def trustReport (e : TrustedEntity) : Json :=
  let endpoints := e.endpoints.mergeSort fun a b => a.binding.uri ≤ b.binding.uri
  .object [
    ("encryption", Json.orNull (fun (c, algorithm) =>
      .object [("algorithm", .text algorithm), ("key_id", .text c.keyId)]) e.encryption),
    ("endpoints", .list (endpoints.map endpointReport)),
    ("entity_id", .text e.entityId),
    ("protocol", .text e.protocol.name),
    ("role", .text e.role.name),
    ("signing_keys", .list (e.signingKeys.map fun c => .text c.keyId)),
    ("signing_required", .bool e.mustSign)]

def showEntity (i : Installation) (e : Environment) (entityId : String) (role : RoleChoice)
    (protocol : Option String) : Except CommandFailure Outcome := do
  let protocol ← match protocol with
    | some name =>
      match Protocol.ofSetting? name with
      | some p => pure p
      | none => throw (.invalidArgument ("unknown protocol: " ++ name))
    | none => i.protocol
  let resolver ← i.resolver e.files
  let role : Role := match role with
    | .idp => .identityProvider
    | .sp => .serviceProvider
  let entity ← resolver.trusted ⟨entityId, role, protocol⟩
  return { files := e.files, output := some (trustReport entity).pretty }

/-- The request that the arguments of `produce` make. -/
def requestFor (subject : String) (lifetime : Option Nat) (attributes : List (String × String))
    (authnContextClass : Option String) : Except CommandFailure Request := do
  if let some n := lifetime then
    if Duration.longest < Duration.ofSeconds n then
      throw (.invalidArgument ("lifetime too large: " ++ toString n))
  return { subject, lifetime := lifetime.map fun n => Duration.ofSeconds n, attributes
           authnContextClass }

def writeResponse (i : Installation) (e : Environment) (q : Except CommandFailure Request)
    (output : Option String) : Except CommandFailure Outcome := do
  let party ← i.assertingParty .standard e.files
  let q ← q
  let d ← party.respond q e.now e.random
  let address := Note.info ("Deliver to " ++ d.destination)
  match output with
  | none => return { files := e.files, notes := [address], output := some d.xml }
  | some path =>
    if let some reason := e.files.obstacle? path then throw (.io reason)
    return { files := e.files.write path d.xml
             notes := [.success ("Wrote response " ++ d.response.id ++ " to " ++ path), address] }

def acceptResponse (i : Installation) (e : Environment) (input : String) :
    Except CommandFailure Outcome := do
  let xml ← match e.files.read input with
    | .text s => pure s
    | .missing => throw (.io "No such file or directory")
    | .unreadable reason => throw (.io reason)
  let (party, state) ← i.relyingParty .standard e.files
  let around : Surroundings :=
    { wall := e.now, uptime := ⟨0⟩, source := ← i.source e.files, random := e.random }
  let a ← (party.consumeText state around xml).1
  return { files := e.files, notes := [.success ("Accepted assertion " ++ a.id)]
           output := some a.report.pretty }

def Command.name : Command → String
  | keygen .. => "keygen"
  | resolve .. => "resolve"
  | produce .. => "produce"
  | consume .. => "consume"

def Command.run (i : Installation) (e : Environment) : Command → Except CommandFailure Outcome
  | .keygen keyAlias key => makeKey i e keyAlias key
  | .resolve entityId role protocol => showEntity i e entityId role protocol
  | .produce subject lifetime attributes authnContextClass output =>
    writeResponse i e (requestFor subject lifetime attributes authnContextClass) output
  | .consume input => acceptResponse i e input

/-! ## Runs -/

/-- A run that fails leaves the files alone and says what it was about, why, and what caused it. -/
def Outcome.failed (files : Files) (about : String) (f : CommandFailure) : Outcome where
  files
  notes := [.failure (": ".intercalate ([about, f.message] ++ f.cause?.toList))]
  exitCode := 1

def Invocation.run (v : Invocation) (e : Environment) : Outcome :=
  match Installation.load e.files v.config with
  | .error f => .failed e.files "failed to load configuration" f
  | .ok i =>
    match Command.run i e v.command with
    | .ok o => o
    | .error f => .failed e.files (v.command.name ++ " failed") f

/-- A run of the program with its arguments. -/
def run (args : List String) (e : Environment) : Outcome :=
  match Invocation.parse args e.configVariable with
  | .ok v => v.run e
  | .error stop => { files := e.files, exitCode := stop.exitCode }

end Federation.CommandLine
