import Federation.Text.Hex

/-!
# Tables of characters

What no rule says of characters beyond ASCII, as a text of words with blanks between them. A word
names a character, a range or every second one of a range by their codes in base sixteen. After an
equals sign it notes what is said of them.

    C0-D6=E0   100-12E/=101   132=69,6A   378-379
-/

namespace Federation.Text.Unicode

/-! ## Algorithm -/

/-- What a table says of some characters. -/
structure Entry where
  first : Nat
  last : Nat
  /-- Only every second character of the range is meant. -/
  isAlternate : Bool
  note : Option (List Char)
deriving DecidableEq, Repr

namespace Entry

/-- The number that digits of base sixteen write. -/
def number (ds : List Char) : Nat := ds.foldl (fun n c => 16 * n + (Hex.value? c).getD 0) 0

/-- Reads a word. -/
def ofWord (word : List Char) : Entry :=
  let place := word.takeWhile (· ≠ '=')
  let first := place.takeWhile (· ≠ '-')
  let last := ((place.drop first.length).drop 1).takeWhile (· ≠ '/')
  { first := number first
    last := number (if last.isEmpty then first else last)
    isAlternate := place.contains '/'
    note := if word.contains '=' then some (word.drop (place.length + 1)) else none }

/-- The entry is about the character of code `n`. -/
def covers (e : Entry) (n : Nat) : Bool :=
  e.first ≤ n && n ≤ e.last && (!e.isAlternate || (n - e.first) % 2 == 0)

/-- The numbers in a note, which commas part. -/
def numbers (note : List Char) : List Nat :=
  let (n, done) := note.foldl (fun (n, done) c =>
    if c = ',' then (0, n :: done) else (16 * n + (Hex.value? c).getD 0, done)) (0, [])
  if note.isEmpty then [] else (n :: done).reverse

end Entry

/-- The words of a text; each ends with a blank or a line. -/
def words (text : String) : List (List Char) :=
  (text.toList.foldl (fun (word, done) c =>
    if c = ' ' ∨ c = '\n' then ([], if word.isEmpty then done else word.reverse :: done)
    else (c :: word, done)) (([] : List Char), ([] : List (List Char)))).2.reverse

/-- The entries that a text holds. -/
def table (text : String) : List Entry := (words text).map Entry.ofWord

/-- The entry about a character, in a table whose entries stand in order. -/
def lookUp? (c : Char) : List Entry → Option Entry
  | [] => none
  | e :: rest =>
    if c.toNat < e.first then none else if e.covers c.toNat then some e else lookUp? c rest

end Federation.Text.Unicode
