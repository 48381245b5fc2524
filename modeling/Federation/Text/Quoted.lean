import Federation.Text.Printable

/-!
# Quoted text

A text between double quotes, as messages show it: quote and backslash are escaped, the common
control characters have their short names, and any other character that is not printable is given
by its number.
-/

namespace Federation.Text

/-- A number in lower-case hexadecimal without leading zeros. -/
def hexText (n : Nat) : List Char := Nat.toDigits 16 n

/-- One character of a quoted text. -/
def quoteChar (c : Char) : List Char :=
  if c = '"' then ['\\', '"']
  else if c = '\\' then ['\\', '\\']
  else if c = '\n' then ['\\', 'n']
  else if c = '\r' then ['\\', 'r']
  else if c = '\t' then ['\\', 't']
  else if c = Char.ofNat 0 then ['\\', '0']
  else if isPrintable c then [c]
  else ['\\', 'u', Char.ofNat 123] ++ hexText c.toNat ++ [Char.ofNat 125]

/-- The text between double quotes. -/
def quote (s : String) : String :=
  String.ofList ('"' :: (s.toList.flatMap quoteChar ++ ['"']))

/-- An optional text as messages show it. -/
def quoteOption : Option String → String
  | none => "None"
  | some s => "Some(" ++ quote s ++ ")"

end Federation.Text
