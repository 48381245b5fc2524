import Federation.Text.Decimal
import Federation.Text.Hex

/-!
# Character references

The five characters that markup gives a meaning, and the references that write them. Reading knows
the same five names and numeric references to any character but NUL.

    unescape (escape s) = some s
-/

namespace Federation.Xml

open Federation.Text

/-! ## Algorithm -/

/-- The written form of one character. -/
def escapeChar (c : Char) : List Char :=
  if c = '<' then "&lt;".toList
  else if c = '>' then "&gt;".toList
  else if c = '&' then "&amp;".toList
  else if c = '\'' then "&apos;".toList
  else if c = '"' then "&quot;".toList
  else [c]

def escape (s : List Char) : List Char := s.flatMap escapeChar

/-- A number in hexadecimal: one digit or more and nothing else. -/
def readHex? : List Char → Option Nat
  | [] => none
  | c :: rest =>
    (c :: rest).foldlM (fun n d => (Hex.value? d).map (16 * n + ·)) 0

/-- The character with a number other than zero. -/
def charOfNumber? (n : Nat) : Option Char :=
  if n ≠ 0 ∧ n.isValidChar then some (Char.ofNat n) else none

/-- The character that a reference names, given what stands between `&` and `;`. -/
def reference? : List Char → Option Char
  | '#' :: 'x' :: ds => do charOfNumber? (← readHex? ds)
  | '#' :: ds => do charOfNumber? (← Decimal.read? ds)
  | name =>
    if name = "lt".toList then some '<'
    else if name = "gt".toList then some '>'
    else if name = "amp".toList then some '&'
    else if name = "apos".toList then some '\''
    else if name = "quot".toList then some '"'
    else none

/-- Replaces references by their characters; `name` is the reference being read, in reverse. -/
def unescapeFrom : Option (List Char) → List Char → Option (List Char)
  | none, [] => some []
  | some _, [] => none
  | none, c :: rest =>
    if c = '&' then unescapeFrom (some []) rest else (unescapeFrom none rest).map (c :: ·)
  | some name, c :: rest =>
    if c = ';' then do
      let d ← reference? name.reverse
      let s ← unescapeFrom none rest
      return d :: s
    else if c = '&' then none
    else unescapeFrom (some (c :: name)) rest

/-- The text that an escaped text stands for; nothing for a reference that is open or unknown. -/
def unescape (s : List Char) : Option (List Char) := unescapeFrom none s

end Federation.Xml
