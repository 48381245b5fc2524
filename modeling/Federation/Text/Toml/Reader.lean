import Federation.Text.Toml.Scalar

/-!
# Reading TOML

A document is a sequence of lines: headers, keys with values, comments and blanks. Values nest at
most 79 deep. A line ends with a line feed, which a carriage return may precede.

- `Reader` takes a piece from the front of a text or fails.
- `Toml.parse?` reads a whole document into one table.
-/

namespace Federation.Text.Toml

/-- Takes a piece from the front of a text, or fails. -/
abbrev Reader := StateT (List Char) Option

namespace Reader

def fail {α : Type} : Reader α := fun _ => none

/-- What an answer of a partial function gives, or failure. -/
def ofOption {α : Type} (a : Option α) : Reader α := fun s => a.map fun a => (a, s)

/-- Takes the character `c` if it comes next. -/
def accept (c : Char) : Reader Bool := fun s =>
  match s with
  | d :: rest => if d = c then some (true, rest) else some (false, s)
  | [] => some (false, [])

def expect (c : Char) : Reader Unit := do if !(← accept c) then fail

/-- Takes the longest run of characters of a kind. -/
def run (p : Char → Bool) : Reader (List Char) := fun s => some (s.takeWhile p, s.dropWhile p)

end Reader

open Reader

/-! ## Layout -/

def isBlank (c : Char) : Bool := c == ' ' || c == '\t'

/-- No control character, tabs excepted. -/
def isPlain (c : Char) : Bool := c == '\t' || 32 ≤ c.toNat && c.toNat != 127

def isBareKey (c : Char) : Bool := c.isAlphanum || c == '_' || c == '-'

def isWord (c : Char) : Bool := isBareKey c || c == '+' || c == '.' || c == ':'

/-- A line feed for each pair of carriage return and line feed. -/
def joinLineEnds : List Char → List Char
  | '\r' :: '\n' :: rest => '\n' :: joinLineEnds rest
  | c :: rest => c :: joinLineEnds rest
  | [] => []

def blanks : Reader Unit := fun s => some ((), s.dropWhile isBlank)

/-- Passes blanks, line ends and comments. -/
def passLayout (inComment : Bool) : List Char → List Char
  | [] => []
  | c :: rest =>
    if c = '\n' then passLayout false rest
    else if inComment then (if isPlain c then passLayout true rest else c :: rest)
    else if isBlank c then passLayout false rest
    else if c = '#' then passLayout true rest
    else c :: rest

def layout : Reader Unit := fun s => some ((), passLayout false s)

/-- Passes the rest of a line, which holds a comment at most. -/
def lineEnd : Reader Unit := do
  blanks
  if ← accept '#' then discard (run isPlain)
  match ← get with
  | [] => return
  | _ => expect '\n'

/-! ## Strings -/

/-- The character of a hexadecimal number of so many digits. -/
def escapedNumber? (width : Nat) (s : List Char) : Option Char :=
  let ds := s.take width
  let n := readBase 16 ds
  if ds.length = width ∧ ds.all isHexDigit ∧ n.isValidChar then some (Char.ofNat n) else none

/-- The character after a backslash means, and how many characters of its own it has. -/
def escape? : List Char → Option (Char × Nat)
  | 'u' :: rest => (escapedNumber? 4 rest).map fun c => (c, 5)
  | 'U' :: rest => (escapedNumber? 8 rest).map fun c => (c, 9)
  | c :: _ =>
    ([('b', Char.ofNat 8), ('t', '\t'), ('n', '\n'), ('f', Char.ofNat 12), ('r', '\r'), ('"', '"'),
      ('\\', '\\')].lookup c).map fun d => (d, 1)
  | [] => none

/-- The length of a line end after a backslash, with all blanks and line ends around it. -/
def foldedLine (s : List Char) : Nat :=
  match s.dropWhile isBlank with
  | '\n' :: _ => (s.takeWhile fun c => isBlank c || c == '\n').length
  | _ => 0

/-- The characters of a string up to its closing quote, after `skip` characters that are read
already. In a string of several lines three quotes close, and up to two more before them belong to
it. -/
def body (quote : Char) (isMultiline : Bool) (skip : Nat) :
    List Char → Option (List Char × List Char)
  | [] => none
  | c :: rest =>
    match skip with
    | n + 1 => body quote isMultiline n rest
    | 0 =>
      let keep (d : Char) (n : Nat) := (body quote isMultiline n rest).map fun r => (d :: r.1, r.2)
      if c = quote then
        if !isMultiline then some ([], rest)
        else
          let quotes := ((c :: rest).takeWhile (· == quote)).length
          if quotes < 3 then keep c 0
          else
            let own := min (quotes - 3) 2
            some (List.replicate own quote, rest.drop (own + 2))
      else if c = '\\' ∧ quote = '"' then
        match escape? rest with
        | some (d, n) => keep d n
        | none =>
          if isMultiline ∧ 0 < foldedLine rest then body quote isMultiline (foldedLine rest) rest
          else none
      else if isPlain c ∨ isMultiline ∧ c = '\n' then keep c 0
      else none

/-- Reads a string after its opening quote. -/
def quoted (quote : Char) (isMultiline : Bool) : Reader String := fun s =>
  let s := if isMultiline ∧ s.head? = some '\n' then s.drop 1 else s
  (body quote isMultiline 0 s).map fun r => (String.ofList r.1, r.2)

/-! ## Keys -/

def key : Reader String := do
  if ← accept '"' then return ← quoted '"' false
  if ← accept '\'' then return ← quoted '\'' false
  let k ← run isBareKey
  if k.isEmpty then fail
  return String.ofList k

/-- Reads keys with dots between them, at most so many. -/
def keyPath : Nat → Reader (List String)
  | 0 => fail
  | n + 1 => do
    blanks
    let k ← key
    blanks
    if ← accept '.' then return k :: (← keyPath n)
    return [k]

/-- How deep values and keys may nest. -/
def depthLimit : Nat := 79

/-! ## Values -/

/-- Reads the items of a list after its opening bracket; a comma may follow the last. -/
def items (value : Reader Toml) : Nat → Reader (List Toml)
  | 0 => fail
  | n + 1 => do
    layout
    if ← accept ']' then return []
    let v ← value
    layout
    if ← accept ',' then return v :: (← items value n)
    expect ']'
    return [v]

/-- Reads keys with their values up to the closing brace. -/
def members (value : Reader Toml) : Nat → Reader (List (List String × Toml))
  | 0 => fail
  | n + 1 => do
    let path ← keyPath depthLimit
    expect '='
    blanks
    let v ← value
    blanks
    if ← accept ',' then return (path, v) :: (← members value n)
    expect '\x7d'
    return [(path, v)]

/-- Reads a value without quotes or brackets. A date and a time with one blank between are one. -/
def word : Reader Toml := do
  let w ← run isWord
  match date? w, ← get with
  | some (_, []), ' ' :: rest =>
    let time := rest.takeWhile isWord
    if time.isEmpty then ofOption (ofWord? w)
    else
      set (rest.dropWhile isWord)
      ofOption (ofWord? (w ++ ' ' :: time))
  | _, _ => ofOption (ofWord? w)

/-- Reads a value that nests at most so deep. -/
def value (depth : Nat) : Reader Toml := do
  match ← get, depth with
  | '"' :: '"' :: '"' :: rest, _ =>
    set rest
    return .text (← quoted '"' true)
  | '"' :: rest, _ =>
    set rest
    return .text (← quoted '"' false)
  | '\'' :: '\'' :: '\'' :: rest, _ =>
    set rest
    return .text (← quoted '\'' true)
  | '\'' :: rest, _ =>
    set rest
    return .text (← quoted '\'' false)
  | '[' :: rest, d + 1 =>
    set rest
    return .array (← items (value d) (rest.length + 1))
  | '\x7b' :: rest, d + 1 =>
    set rest
    blanks
    if ← accept '\x7d' then return .table .braces []
    let ms ← members (value d) (rest.length + 1)
    ofOption (ms.foldlM (fun t m => t.put m.1 m.2) (.table .braces []))
  | _, _ => word

/-! ## Documents -/

/-- A document while it is read: what it holds so far, and the header that lines belong to. -/
structure Draft where
  root : Toml := .table .header []
  header : List String := []

/-- Reads a line that is not blank. -/
def line (d : Draft) : Reader Draft := do
  match ← get with
  | '[' :: '[' :: rest =>
    set rest
    let path ← keyPath depthLimit
    expect ']'
    expect ']'
    lineEnd
    return ⟨← ofOption (d.root.openEntry path), path⟩
  | '[' :: rest =>
    set rest
    let path ← keyPath depthLimit
    expect ']'
    lineEnd
    return ⟨← ofOption (d.root.openTable path), path⟩
  | _ =>
    let path ← keyPath depthLimit
    expect '='
    blanks
    let v ← value depthLimit
    lineEnd
    return { d with root := ← ofOption (d.root.putBelow d.header path v) }

/-- Reads lines to the end, at most so many. -/
def lines : Nat → Draft → Reader Draft
  | 0, _ => fail
  | n + 1, d => do
    layout
    if (← get).isEmpty then return d
    lines n (← line d)

/-- Reads a document, which may begin with a byte order mark. -/
def parse? (s : String) : Option Toml :=
  let cs := joinLineEnds (match s.toList with
    | '\uFEFF' :: rest => rest
    | cs => cs)
  (StateT.run (lines (cs.length + 1) {}) cs).map fun (d, _) => d.root

end Federation.Text.Toml
