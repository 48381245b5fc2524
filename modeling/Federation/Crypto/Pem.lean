import Federation.Crypto.Algorithm
import Federation.Bytes
import Federation.Text.Base64

/-!
# PEM

Binary data as text: base64 between two lines that name what it is. Text before the block is passed
over, and the label of the closing line is not compared.

    (decode (encode label data)) = ok (label, data), for a label without dashes or line breaks
-/

namespace Federation.Crypto.Pem

/-! ## Algorithm -/

/-- The lines of a text, without their ends; a line that nothing follows is one too. -/
def linesFrom (seen : List Char) : List Char → List (List Char)
  | [] => if seen.isEmpty then [] else [seen.reverse]
  | c :: rest => if c = '\n' then seen.reverse :: linesFrom [] rest else linesFrom (c :: seen) rest

def dashes : List Char := "-----".toList

/-- The text before the first row of dashes, if there is one. -/
def beforeDashes : List Char → Option (List Char)
  | [] => none
  | c :: rest =>
    if dashes.isPrefixOf (c :: rest) then some [] else (beforeDashes rest).map (c :: ·)

def begins (word : String) (line : List Char) : Bool := (dashes ++ word.toList).isPrefixOf line

/-- The label that an opening line names; it ends with the first dash. -/
def label? (line : List Char) : Option (List Char) :=
  (beforeDashes (line.drop 11)).map fun label => label.takeWhile (· ≠ '-')

/-- The base64 text up to the closing line. -/
def body? : List (List Char) → Option (List Char)
  | [] => none
  | line :: rest =>
    if begins "END " line then some [] else (body? rest).map (Text.trimEnd line ++ ·)

/-- The data in base64; each group of four characters may be padded, as it is where the texts of two
byte strings meet. -/
def data? (text : List Char) : Option Bytes :=
  ((Bytes.blocks 4 text).mapM Text.Base64.decode).map List.flatten

/-- The label and data of the first block. -/
def decode? (s : String) : Option (String × Bytes) :=
  match (linesFrom [] s.toList).dropWhile fun line => !begins "BEGIN " line with
  | [] => none
  | first :: rest => do
    let label ← label? first
    let data ← data? (← body? rest)
    return (String.ofList label, data)

def decode (s : String) : Except Failure (String × Bytes) :=
  match decode? s with
  | some block => .ok block
  | none => .error (.invalidKey "malformed PEM: not a readable block")

/-- A block with lines of 64 characters. -/
def encode (label : String) (data : Bytes) : String :=
  String.ofList (dashes ++ "BEGIN ".toList ++ label.toList ++ dashes ++ '\n' ::
    (Bytes.blocks 64 (Text.Base64.encode data)).flatMap (· ++ ['\n'])
    ++ dashes ++ "END ".toList ++ label.toList ++ dashes ++ ['\n'])

end Federation.Crypto.Pem
