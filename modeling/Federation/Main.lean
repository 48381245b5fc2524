import Federation.CommandLine.Run
import Std.Time.DateTime.Timestamp

/-!
# The program

Runs the command line on the files, the clock and the random values of the machine. What a run does
is `CommandLine.run`; here its surroundings are gathered first and its outcome is carried out after.
-/

namespace Federation.Program

open Federation.CommandLine
open Federation.Time (Instant)
open Federation.Crypto (KeyFile)

/-! ## Gathering -/

/-- What reading a path of the machine gives. -/
def reading (path : String) : IO Reading := do
  match ← (IO.FS.readBinFile path).toBaseIO with
  | .ok bytes =>
    match String.fromUTF8? bytes with
    | some content => return .text content
    | none => return .unreadable "stream did not contain valid UTF-8"
  | .error (.noFileOrDirectory ..) => return .missing
  | .error e => return .unreadable (toString e)

/-- Adds what reading a path gives, unless nothing is there. -/
def withFile (files : Files) (path : String) : IO Files := do
  match ← reading path with
  | .missing => return files
  | r => return { files with entries := (files.full path, r) :: files.entries }

/-- Notes that a directory is there, which can be opened and not be read. -/
def withDirectory (files : Files) (path : String) : IO Files := do
  match ← (IO.FS.withFile path .read (·.read 1)).toBaseIO with
  | .ok _ | .error (.noFileOrDirectory ..) => return files
  | .error e =>
    let place := Files.join (files.full path) "."
    return { files with entries := (place, .unreadable (toString e)) :: files.entries }

/-- Adds the files of an alias. -/
def withKey (i : Installation) (files : Files) (keyAlias : String) : IO Files :=
  KeyFile.all.foldlM (fun files file => withFile files (i.keys.pathOf keyAlias file)) files

/-- Adds the file that a command reads or writes on its own account. -/
def withOwn (files : Files) : Command → IO Files
  | .consume input => withFile files input
  | .produce _ _ _ _ (some output) => do
    withDirectory (← withDirectory files output) (Files.parent output)
  | _ => return files

/-- The files that a run of the program looks at. -/
def gather (v : Invocation) : IO Files := do
  let files ← v.config.toList.foldlM withFile { workingDirectory := "" }
  match Installation.load files v.config with
  | .error _ => return files
  | .ok i =>
    let s := i.settings
    let files ← (s.metadata.path.toList ++ [i.keys.path]).foldlM withFile files
    let aliases := s.identityProvider.signingKeyAlias.toList
      ++ s.serviceProvider.decryptionKeyAlias.toList
    withOwn (← aliases.foldlM (withKey i) files) v.command

/-- The clock of the machine. -/
def now : IO Instant := do
  let t ← Std.Time.Timestamp.now
  return (Instant.ofNanos? t.toNanosecondsSinceUnixEpoch.val).getD .earliest

/-! ## Carrying out -/

/-- Writes the files that a run has put there. -/
def store (before after : Files) : IO Unit :=
  after.entries.reverse.forM fun (place, r) => do
    if let .text content := r then
      if before.entries.lookup place ≠ some r then
        let directory := Files.parent place
        if directory ≠ "" then IO.FS.createDirAll directory
        IO.FS.writeFile place content

def usage : String :=
  "\n".intercalate [
    "Usage: federation [--config FILE] [--verbose] COMMAND",
    "",
    "Commands:",
    "  keygen   Make a key pair and store it",
    "  resolve  Show what is trusted about an entity",
    "  produce  Make a response for a subject",
    "  consume  Validate a response"]

/-- Carries out an invocation and answers its exit code. -/
def carryOut (v : Invocation) : IO Nat := do
  let files ← gather v
  let seed := (← IO.getRandomBytes 32).toList
  let o := v.run { files, now := ← now, random := .ofSeed seed }
  store files o.files
  o.output.forM fun s => IO.println s
  o.notes.forM fun note => IO.eprintln note.line
  return o.exitCode

def execute (args : List String) : IO Nat := do
  match Invocation.parse args (← IO.getEnv Settings.pathVariable) with
  | .ok v =>
    try carryOut v
    catch e =>
      IO.eprintln (Note.failure (v.command.name ++ " failed: IO error: " ++ toString e)).line
      return 1
  | .error stop =>
    if stop.exitCode = 0 then IO.println usage else IO.eprintln usage
    return stop.exitCode

end Federation.Program

def main (args : List String) : IO UInt32 :=
  UInt32.ofNat <$> Federation.Program.execute args
