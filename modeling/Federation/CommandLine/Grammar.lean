import Federation.Text.Decimal

/-!
# Command-line grammars

What a command takes: options, values in fixed places, and commands of its own. Arguments are
scanned from left to right, and the first that asks for help, or that cannot stand, ends the scan.

- An option is written `--name value`, `--name=value`, `-n value`, `-nvalue` or `-n=value`.
- Letters of options without a value may stand together.
- After `--` all arguments are values.
-/

namespace Federation.CommandLine

/-- Why arguments lead to no command. -/
inductive Stop
  /-- Help or the version was asked for. -/
  | help
  | usage
deriving DecidableEq, Repr

def Stop.exitCode : Stop → Nat
  | help => 0
  | usage => 2

structure OptionRule where
  name : String
  letter : Option Char := none
  takesValue : Bool := true
  /-- It may be given more than once. -/
  repeats : Bool := false
  accepts : String → Bool := fun _ => true

structure Grammar where
  options : List OptionRule := []
  /-- The names of the values in fixed places, and which texts each may be. -/
  places : List (String × (String → Bool)) := []
  commands : List String := []

/-- What a value is for, once it is known. -/
structure Entry where
  name : String
  repeats : Bool
  accepts : String → Bool
  value : String

/-- How far a scan is. -/
structure Scan where
  /-- Names with their values, in order. -/
  found : List (String × String) := []
  /-- The last value, which is still to be checked. -/
  last : Option Entry := none
  /-- An option whose value comes next. -/
  awaiting : Option OptionRule := none
  placed : Nat := 0
  onlyValues : Bool := false

namespace Scan

/-- Checks the last value. An option without its value cannot stand. -/
def settle (s : Scan) : Except Stop Scan :=
  match s.awaiting, s.last with
  | some _, _ => .error .usage
  | none, none => .ok s
  | none, some e =>
    if !e.accepts e.value || (!e.repeats && (s.found.lookup e.name).isSome) then .error .usage
    else .ok { s with found := s.found ++ [(e.name, e.value)], last := none }

/-- Takes a value that cannot be followed by more. -/
def enter (s : Scan) (o : OptionRule) (value : String) : Except Stop Scan := do
  let s ← s.settle
  ({ s with last := some ⟨o.name, o.repeats, o.accepts, value⟩ }).settle

/-- Takes an option with no value beside it. -/
def mention (s : Scan) (o : OptionRule) : Except Stop Scan := do
  let s ← s.settle
  if o.takesValue then return { s with awaiting := some o }
  if o.name = "help" ∨ o.name = "version" then throw .help
  s.enter o ""

/-- Takes an argument that begins with two hyphens. -/
def long (g : Grammar) (s : Scan) (text : List Char) : Except Stop Scan := do
  let name := String.ofList (text.takeWhile (· ≠ '='))
  let attached := text.dropWhile (· ≠ '=')
  let some o := g.options.find? (·.name == name) | throw .usage
  if attached.isEmpty then s.mention o
  else if o.takesValue then s.enter o (String.ofList (attached.drop 1))
  else throw .usage

/-- Takes the letters of an argument that begins with one hyphen. -/
def short (g : Grammar) (s : Scan) : List Char → Except Stop Scan
  | [] => .ok s
  | c :: rest => do
    let some o := g.options.find? (·.letter == some c) | throw .usage
    if !o.takesValue then short g (← s.mention o) rest
    else if rest.isEmpty then s.mention o
    else
      s.enter o (String.ofList (if rest.head? = some '=' then rest.drop 1 else rest))

/-- Takes an argument as the value in the next place. -/
def place (g : Grammar) (s : Scan) (arg : String) : Except Stop Scan := do
  let some (name, accepts) := g.places[s.placed]? | throw .usage
  let s ← s.settle
  return { s with last := some ⟨name, false, accepts, arg⟩, placed := s.placed + 1 }

/-- Takes one argument. -/
def take (g : Grammar) (s : Scan) (arg : String) : Except Stop Scan :=
  if s.onlyValues then s.place g arg
  else match arg.toList, s.awaiting with
    | ['-', '-'], _ => .ok { s with onlyValues := true }
    | '-' :: '-' :: text, _ => s.long g text
    | '-' :: c :: text, _ => s.short g (c :: text)
    | _, some o =>
      .ok { s with awaiting := none, last := some ⟨o.name, o.repeats, o.accepts, arg⟩ }
    | _, none => s.place g arg

/-- Takes arguments up to the name of a command, and answers that and the arguments behind it. -/
def upToCommand (g : Grammar) (s : Scan) : List String → Except Stop (Scan × List String)
  | [] => .ok (s, [])
  | arg :: rest =>
    if !s.onlyValues && s.awaiting.isNone && g.commands.contains arg then .ok (s, arg :: rest)
    else (s.take g arg).bind fun s => upToCommand g s rest

end Scan

/-- The names with their values, if every place is filled. -/
def Grammar.finish (g : Grammar) (s : Scan) : Except Stop (List (String × String)) := do
  let s ← s.settle
  if s.placed < g.places.length then throw .usage
  return s.found

/-- Scans the arguments of a command that has none of its own. -/
def Grammar.scan (g : Grammar) (args : List String) : Except Stop (List (String × String)) := do
  let (s, _) ← Scan.upToCommand g {} args
  g.finish s

end Federation.CommandLine
