import Federation.Text.Hex
import Federation.Text.Toml

/-!
# Writing TOML

Records of texts, whole numbers and truth values, as sections with one key a line.
-/

namespace Federation.Text.Toml

/-- One character of a string; control characters and the two delimiters are escaped. -/
def escapeChar (c : Char) : List Char :=
  if c = '"' ∨ c = '\\' then ['\\', c]
  else if c.toNat < 32 ∨ c.toNat = 127 then
    "\\u00".toList ++ Hex.pair (UInt8.ofNat c.toNat)
  else [c]

/-- A value that stands on one line; tables and lists are not written. -/
def written? : Toml → Option String
  | .text s => some (String.ofList ('"' :: (s.toList.flatMap escapeChar ++ ['"'])))
  | .integer n => some (toString n)
  | .boolean b => some (if b then "true" else "false")
  | .decimal s | .moment s => some s
  | _ => none

/-- A section with its header; fields without a value are left out. -/
def block? (name : String) (fields : List (String × Option Toml)) : Option String := do
  let lines ← fields.filterMapM fun (key, v) =>
    match v with
    | none => some none
    | some v => (written? v).map fun s => some (key ++ " = " ++ s ++ "\n")
  return "[" ++ name ++ "]\n" ++ String.join lines

/-- A document of sections. -/
def write? (sections : List (String × List (String × Option Toml))) : Option String :=
  (sections.mapM fun (name, fields) => block? name fields).map ("\n".intercalate ·)

end Federation.Text.Toml
