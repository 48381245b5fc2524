import Federation.Text.Blank

/-!
# Base64

The two base64 alphabets. Decoding the standard one is strict: the length is a multiple of four,
padding stands only where the last group needs it, and the bits that padding leaves over are zero.
So each byte string has one written form, blanks apart.

    decode (encode b) = some b
-/

namespace Federation.Text.Base64

/-! ## Algorithm -/

/-- The character of a six-bit number, with `c62` and `c63` as the last two. -/
def letter (c62 c63 : Char) (n : Nat) : Char :=
  if n < 26 then Char.ofNat (65 + n)
  else if n < 52 then Char.ofNat (71 + n)
  else if n < 62 then Char.ofNat (n - 4)
  else if n = 62 then c62 else c63

def standard : Nat → Char := letter '+' '/'

def urlSafe : Nat → Char := letter '-' '_'

/-- The six-bit number of a character of the standard alphabet. -/
def value? (c : Char) : Option Nat :=
  let n := c.toNat
  if 65 ≤ n && n ≤ 90 then some (n - 65)
  else if 97 ≤ n && n ≤ 122 then some (n - 71)
  else if 48 ≤ n && n ≤ 57 then some (n + 4)
  else if c = '+' then some 62
  else if c = '/' then some 63
  else none

/-- Three bytes as four characters; a shorter last group is filled up with `pad`. -/
def encodeWith (letter : Nat → Char) (pad : Nat → List Char) : List UInt8 → List Char
  | [] => []
  | [a] =>
    let x := a.toNat
    letter (x / 4) :: letter (x % 4 * 16) :: pad 2
  | [a, b] =>
    let x := a.toNat
    let y := b.toNat
    letter (x / 4) :: letter (x % 4 * 16 + y / 16) :: letter (y % 16 * 4) :: pad 1
  | a :: b :: c :: rest =>
    let x := a.toNat
    let y := b.toNat
    let z := c.toNat
    letter (x / 4) :: letter (x % 4 * 16 + y / 16) :: letter (y % 16 * 4 + z / 64)
      :: letter (z % 64) :: encodeWith letter pad rest

/-- The standard alphabet with padding. -/
def encode (bytes : List UInt8) : List Char :=
  encodeWith standard (fun n => List.replicate n '=') bytes

/-- The alphabet for URLs and file names, without padding. -/
def encodeUrl (bytes : List UInt8) : List Char := encodeWith urlSafe (fun _ => []) bytes

/-- Reads the standard alphabet with padding. -/
def decode : List Char → Option (List UInt8)
  | [] => some []
  | [a, b, '=', '='] => do
    let p ← value? a
    let q ← value? b
    if q % 16 = 0 then some [UInt8.ofNat (p * 4 + q / 16)] else none
  | [a, b, c, '='] => do
    let p ← value? a
    let q ← value? b
    let r ← value? c
    if r % 4 = 0 then
      some [UInt8.ofNat (p * 4 + q / 16), UInt8.ofNat (q % 16 * 16 + r / 4)]
    else none
  | a :: b :: c :: d :: rest => do
    let p ← value? a
    let q ← value? b
    let r ← value? c
    let s ← value? d
    let more ← decode rest
    some (UInt8.ofNat (p * 4 + q / 16) :: UInt8.ofNat (q % 16 * 16 + r / 4)
      :: UInt8.ofNat (r % 4 * 64 + s) :: more)
  | _ => none

/-- Reads base64 with blanks anywhere in it, as XML documents carry it. -/
def decodeSpaced (s : List Char) : Option (List UInt8) := decode (dropBlanks s)

/-- `encode` on strings. -/
def encodeText (bytes : List UInt8) : String := String.ofList (encode bytes)

end Federation.Text.Base64
