import Federation.CommandLine.Grammar

/-!
# Invocations

The commands and what they are given: `keygen` makes a key, `resolve` shows a trusted entity,
`produce` writes a response, and `consume` accepts one.

- `Invocation.parse` reads the arguments of a run.
-/

namespace Federation.CommandLine

/-! ## Commands -/

/-- The keys that can be made. -/
inductive KeyChoice
  | rsa2048
  | rsa3072
  | rsa4096
  | p256
  | p384
deriving DecidableEq, Repr

namespace KeyChoice

def all : List KeyChoice := [rsa2048, rsa3072, rsa4096, p256, p384]

def name : KeyChoice → String
  | rsa2048 => "rsa2048"
  | rsa3072 => "rsa3072"
  | rsa4096 => "rsa4096"
  | p256 => "p256"
  | p384 => "p384"

def ofName? (s : String) : Option KeyChoice := all.find? (·.name == s)

end KeyChoice

/-- The roles that an entity can be shown in. -/
inductive RoleChoice
  | idp
  | sp
deriving DecidableEq, Repr

namespace RoleChoice

def name : RoleChoice → String
  | idp => "idp"
  | sp => "sp"

def ofName? (s : String) : Option RoleChoice := [idp, sp].find? (·.name == s)

end RoleChoice

inductive Command
  | keygen («alias» : String) (algorithm : KeyChoice)
  | resolve (entityId : String) (role : RoleChoice) (protocol : Option String)
  | produce (subject : String) (lifetime : Option Nat) (attributes : List (String × String))
      (authnContext : Option String) (output : Option String)
  | consume (input : String)
deriving DecidableEq, Repr

/-- A run of the program. -/
structure Invocation where
  /-- The file of settings. -/
  config : Option String
  isVerbose : Bool
  command : Command
deriving DecidableEq, Repr

namespace Invocation

/-! ## Values -/

def isPath (s : String) : Bool := s != ""

/-- A count of seconds that 64 bits hold; a plus sign may stand before it. -/
def seconds? (s : String) : Option Nat :=
  let digits := match s.toList with
    | '+' :: rest => rest
    | cs => cs
  (Text.Decimal.read? digits).filter (· < 2 ^ 64)

/-- A name that is not empty, an equals sign, and a value. -/
def attribute? (s : String) : Option (String × String) :=
  match s.toList.span (· ≠ '=') with
  | ([], _) | (_, []) => none
  | (name, _ :: value) => some (String.ofList name, String.ofList value)

/-! ## Grammars -/

def helpRules : List OptionRule :=
  [{ name := "help", letter := some 'h', takesValue := false },
   { name := "version", letter := some 'V', takesValue := false }]

def outerGrammar : Grammar where
  options :=
    [{ name := "config", letter := some 'c', accepts := isPath },
     { name := "verbose", letter := some 'v', takesValue := false }] ++ helpRules
  commands := ["keygen", "resolve", "produce", "consume", "help"]

def keygenGrammar : Grammar where
  options :=
    { name := "algorithm", letter := some 'a', accepts := fun s => (KeyChoice.ofName? s).isSome }
      :: helpRules
  places := [("alias", fun _ => true)]

def resolveGrammar : Grammar where
  options :=
    [{ name := "role", letter := some 'r', accepts := fun s => (RoleChoice.ofName? s).isSome },
     { name := "protocol", letter := some 'p' }] ++ helpRules
  places := [("entity", fun _ => true)]

def produceGrammar : Grammar where
  options :=
    [{ name := "lifetime", accepts := fun s => (seconds? s).isSome },
     { name := "attribute", letter := some 'a', repeats := true
       accepts := fun s => (attribute? s).isSome },
     { name := "authn-context" },
     { name := "output", letter := some 'o', accepts := isPath }] ++ helpRules
  places := [("subject", fun _ => true)]

def consumeGrammar : Grammar where
  options := helpRules
  places := [("input", isPath)]

/-! ## Reading arguments -/

/-- The value in a place that is filled. -/
def inPlace (found : List (String × String)) (name : String) : String :=
  (found.lookup name).getD ""

/-- Reads the name of a command and its arguments. Help names at most one command. -/
def readCommand : List String → Except Stop Command
  | "keygen" :: args => do
    let found ← keygenGrammar.scan args
    return .keygen (inPlace found "alias")
      (((found.lookup "algorithm").bind KeyChoice.ofName?).getD .rsa2048)
  | "resolve" :: args => do
    let found ← resolveGrammar.scan args
    return .resolve (inPlace found "entity")
      (((found.lookup "role").bind RoleChoice.ofName?).getD .sp) (found.lookup "protocol")
  | "produce" :: args => do
    let found ← produceGrammar.scan args
    return .produce (inPlace found "subject") ((found.lookup "lifetime").bind seconds?)
      (found.filterMap fun (name, value) => if name = "attribute" then attribute? value else none)
      (found.lookup "authn-context") (found.lookup "output")
  | "consume" :: args => do
    let found ← consumeGrammar.scan args
    return .consume (inPlace found "input")
  | "help" :: args =>
    match args with
    | [] => .error .help
    | [name] => .error (if outerGrammar.commands.contains name then .help else .usage)
    | _ => .error .usage
  | _ => .error .usage

/-- Reads the arguments of a run. The file of settings may also be named by `variable`, the value of
an environment variable. -/
def parse (args : List String) (configVariable : Option String) : Except Stop Invocation := do
  let (s, rest) ← Scan.upToCommand outerGrammar {} args
  let command ← readCommand rest
  let found ← outerGrammar.finish s
  let config := (found.lookup "config").or configVariable
  if !config.all isPath then throw .usage
  return { config, isVerbose := (found.lookup "verbose").isSome, command }

end Invocation

end Federation.CommandLine
