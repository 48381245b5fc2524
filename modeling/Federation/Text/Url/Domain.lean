import Federation.Text.Unicode.Joining
import Federation.Text.Unicode.Mapping
import Federation.Text.Url.Punycode

/-!
# Domain names

The names of hosts in ASCII. Letters beyond ASCII are first brought to one spelling, and the labels
that hold some are then written in Punycode after a mark; a label with that mark already has to be
the one way to write its letters.

    ascii? name = some a implies ascii? a = some a
-/

namespace Federation.Text

/-- The parts of a list between the elements of a kind. -/
def splitAt (p : Char → Bool) : List Char → List (List Char)
  | [] => [[]]
  | c :: rest =>
    if p c then [] :: splitAt p rest
    else match splitAt p rest with
      | part :: parts => (c :: part) :: parts
      | [] => [[c]]

namespace Domain

/-- No domain has a control character, a blank, a percent sign or one of the marks of URLs. -/
def isForbidden (c : Char) : Bool :=
  c.toNat ≤ 32 || c.toNat = 127 || "#/:<>?@[\\]^|%".toList.contains c

/-! ## Labels -/

/-- A label as it is read, and as it is written in ASCII. -/
structure Label where
  letters : List Char
  ascii : List Char

namespace Label

/-- What stands before a label in Punycode. -/
def mark : List Char := "xn--".toList

def isAscii (s : List Char) : Bool := s.all (·.toNat < 128)

/-- The greatest length of a label in letters beyond ASCII. -/
def maxLength : Nat := 1000

/-- The letters are the one spelling of a label, and may stand beside each other. -/
def isWellFormed (letters : List Char) : Bool :=
  letters.length ≤ maxLength && letters.all Unicode.isPlain && Unicode.composed letters = letters
    && !(letters.head?.any Unicode.isMark) && Unicode.joinersFit [] letters

/-- Reads a label that is mapped and composed. -/
def read? (s : List Char) : Option Label := do
  if mark.isPrefixOf s then
    let letters ← Punycode.decode? (s.drop mark.length)
    if isAscii s ∧ !isAscii letters ∧ !letters.contains '.' ∧ isWellFormed letters then
      some ⟨letters, s⟩
    else none
  else if isAscii s then some ⟨s, s⟩
  else if isWellFormed s then some ⟨s, mark ++ Punycode.encode s⟩
  else none

end Label

/-! ## Names -/

/-- The one ASCII form of a name. -/
def ascii? (s : List Char) : Option (List Char) := do
  let mapped ← s.mapM Unicode.mapped?
  let labels ← (splitAt (· == '.') (Unicode.composed mapped.flatten)).mapM Label.read?
  let keepsDirection := !(labels.any fun l => Unicode.hasRight l.letters)
    || labels.all fun l => Unicode.keepsDirection l.letters
  let name := ['.'].intercalate (labels.map (·.ascii))
  if !keepsDirection || name.isEmpty || name.any isForbidden then none else some name

end Domain

end Federation.Text
