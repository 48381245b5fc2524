import Federation.Text.Hex

/-!
# JSON

JSON values with integers as their only numbers, and their text: in one line, or indented by two
spaces with one entry a line. Members of an object keep the order they are given in.
-/

namespace Federation.Text

/-- A JSON value. -/
inductive Json
  | null
  | bool (b : Bool)
  | int (n : Int)
  | text (s : String)
  | list (items : List Json)
  | object (members : List (String × Json))
deriving Repr

namespace Json

/-! ## Text -/

/-- One character of a string; control characters and the two delimiters are escaped. -/
def escapeChar (c : Char) : List Char :=
  if c = '"' then ['\\', '"']
  else if c = '\\' then ['\\', '\\']
  else if c = '\n' then ['\\', 'n']
  else if c = '\r' then ['\\', 'r']
  else if c = '\t' then ['\\', 't']
  else if c.toNat = 8 then ['\\', 'b']
  else if c.toNat = 12 then ['\\', 'f']
  else if c.toNat < 32 then
    "\\u00".toList ++ Hex.pair (UInt8.ofNat c.toNat)
  else [c]

def quoted (s : String) : String := String.ofList ('"' :: (s.toList.flatMap escapeChar ++ ['"']))

/-- A line break and the indentation of a depth. -/
def newLine (depth : Nat) : String := "\n" ++ String.ofList (List.replicate (2 * depth) ' ')

mutual

/-- The indented text of a value whose first line stands at a depth. -/
def prettyAt (depth : Nat) : Json → String
  | .null => "null"
  | .bool b => if b then "true" else "false"
  | .int n => toString n
  | .text s => quoted s
  | .list [] => "[]"
  | .list (item :: rest) =>
    "[" ++ newLine (depth + 1) ++ prettyAt (depth + 1) item ++ prettyItems depth rest
  | .object [] => "\x7b\x7d"
  | .object ((name, item) :: rest) =>
    "\x7b" ++ newLine (depth + 1) ++ quoted name ++ ": " ++ prettyAt (depth + 1) item
      ++ prettyMembers depth rest

/-- The items after the first, and the end of the list. -/
def prettyItems (depth : Nat) : List Json → String
  | [] => newLine depth ++ "]"
  | item :: rest =>
    "," ++ newLine (depth + 1) ++ prettyAt (depth + 1) item ++ prettyItems depth rest

/-- The members after the first, and the end of the object. -/
def prettyMembers (depth : Nat) : List (String × Json) → String
  | [] => newLine depth ++ "\x7d"
  | (name, item) :: rest =>
    "," ++ newLine (depth + 1) ++ quoted name ++ ": " ++ prettyAt (depth + 1) item
      ++ prettyMembers depth rest

end

/-- The indented text of a value. -/
def pretty (j : Json) : String := prettyAt 0 j

/-- Members that are there only if they have a value. -/
def optional {α : Type} (name : String) (f : α → Json) : Option α → List (String × Json)
  | none => []
  | some a => [(name, f a)]

/-- A value or null. -/
def orNull {α : Type} (f : α → Json) : Option α → Json
  | none => .null
  | some a => f a

end Json

end Federation.Text
