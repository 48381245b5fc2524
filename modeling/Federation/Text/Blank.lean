/-!
# Blank text

The characters with the Unicode property `White_Space`, and the operations that cut text at them:
trimming, splitting into words, and dropping every blank.

    trim s = trimEnd (trimStart s)
-/

namespace Federation.Text

/-! ## Algorithm -/

/-- The characters with the property `White_Space`. -/
def isBlank (c : Char) : Bool :=
  let n := c.toNat
  (9 ≤ n && n ≤ 13) || n == 0x20 || n == 0x85 || n == 0xA0 || n == 0x1680
    || (0x2000 ≤ n && n ≤ 0x200A) || n == 0x2028 || n == 0x2029 || n == 0x202F
    || n == 0x205F || n == 0x3000

/-- A text of blank characters only; the empty text is one. -/
def allBlank (s : List Char) : Bool := s.all isBlank

def trimStart (s : List Char) : List Char := s.dropWhile isBlank

def trimEnd (s : List Char) : List Char := (s.reverse.dropWhile isBlank).reverse

def trim (s : List Char) : List Char := trimEnd (trimStart s)

/-- The maximal runs of characters that are not blank; `seen` is the run being read, in reverse. -/
def wordsFrom (seen : List Char) : List Char → List (List Char)
  | [] => if seen.isEmpty then [] else [seen.reverse]
  | c :: rest =>
    if isBlank c then
      (if seen.isEmpty then wordsFrom [] rest else seen.reverse :: wordsFrom [] rest)
    else wordsFrom (c :: seen) rest

def words (s : List Char) : List (List Char) := wordsFrom [] s

def dropBlanks (s : List Char) : List Char := s.filter fun c => !isBlank c

/-- `trim` on strings. -/
def trimmed (s : String) : String := String.ofList (trim s.toList)

/-! ## Lemmas -/

@[simp] theorem allBlank_nil : allBlank [] = true := rfl

@[simp] theorem dropBlanks_nil : dropBlanks [] = [] := rfl

theorem dropBlanks_append (s t : List Char) :
    dropBlanks (s ++ t) = dropBlanks s ++ dropBlanks t := by
  simp [dropBlanks]

theorem trimStart_of_head {c : Char} {s : List Char} (h : isBlank c = false) :
    trimStart (c :: s) = c :: s := by
  simp [trimStart, h]

end Federation.Text
