import Federation.Bytes

/-!
# AES

The block cipher with keys of 128 and 256 bits, in the encrypting direction, which is all that
counter mode needs. A block is sixteen bytes, four to a column.

    a block and its image have the same length
-/

namespace Federation.Crypto.Aes

/-! ## The field of bytes -/

/-- Twice a byte. -/
def double (x : UInt8) : UInt8 := if x < 0x80 then x <<< 1 else (x <<< 1) ^^^ 0x1B

/-- The product of two bytes, from the eight low bits of the first. -/
def mulFrom : Nat → UInt8 → UInt8 → UInt8
  | 0, _, _ => 0
  | n + 1, x, y => (if x % 2 = 1 then y else 0) ^^^ mulFrom n (x / 2) (double y)

def mul (x y : UInt8) : UInt8 := mulFrom 8 x y

/-- The inverse of a byte, which is its 254th power; zero goes to zero. -/
def inverse (x : UInt8) : UInt8 := (List.replicate 253 x).foldl mul x

/-- The substitution of a byte, worked out. -/
def substitute (x : UInt8) : UInt8 :=
  let y := inverse x
  let turn (n : UInt8) := (y <<< n) ||| (y >>> (8 - n))
  y ^^^ turn 1 ^^^ turn 2 ^^^ turn 3 ^^^ turn 4 ^^^ 0x63

/-- All substitutions. -/
def substitutions : Array UInt8 := Array.ofFn fun i : Fin 256 => substitute (UInt8.ofNat i)

def sub (x : UInt8) : UInt8 := substitutions.getD x.toNat 0

/-! ## Rounds -/

/-- Each row of the block moves left by its number. -/
def shiftRows (b : Bytes) : Bytes := (List.range 16).map fun i => b.getD (5 * i % 16) 0

/-- Mixes the four bytes of a column. -/
def mixColumn : Bytes → Bytes
  | [p, q, r, s] =>
    let all := p ^^^ q ^^^ r ^^^ s
    [p ^^^ all ^^^ double (p ^^^ q), q ^^^ all ^^^ double (q ^^^ r),
     r ^^^ all ^^^ double (r ^^^ s), s ^^^ all ^^^ double (s ^^^ p)]
  | column => column

def mixColumns (b : Bytes) : Bytes := (Bytes.blocks 4 b).flatMap mixColumn

/-! ## Key schedule -/

/-- The four bytes that the first word of a group is changed by, from the last word before it. -/
def core (constant : UInt8) : Bytes → Bytes
  | [p, q, r, s] => [sub q ^^^ constant, sub r, sub s, sub p]
  | word => word

/-- Each word changed by the one before it; a group of eight also substitutes in its middle. -/
def chain (size : Nat) (i : Nat) (before : Bytes) : List Bytes → List Bytes
  | [] => []
  | word :: rest =>
    let before := if size = 8 ∧ i = 4 then before.map sub else before
    let word := Bytes.xor word before
    word :: chain size (i + 1) word rest

/-- `n` groups of words, each made from the one before. -/
def groups (size : Nat) : Nat → UInt8 → List Bytes → List Bytes
  | 0, _, _ => []
  | n + 1, constant, group =>
    group ++ groups size n (double constant)
      (chain size 0 (core constant (group.getLastD [])) group)

/-- The keys of the rounds: eleven for a key of sixteen bytes, fifteen for one of thirty-two. -/
def roundKeys (key : Bytes) : List Bytes :=
  let size := key.length / 4
  let words := groups size 11 1 (Bytes.blocks 4 key)
  (Bytes.blocks 4 (words.take (4 * (size + 7)))).map List.flatten

/-- The rounds after the first key; the last one mixes no columns. -/
def rounds (b : Bytes) : List Bytes → Bytes
  | [] => b
  | [key] => Bytes.xor (shiftRows (b.map sub)) key
  | key :: rest => rounds (Bytes.xor (mixColumns (shiftRows (b.map sub))) key) rest

/-- Encrypts a block with the keys of the rounds. -/
def encryptWith (keys : List Bytes) (b : Bytes) : Bytes :=
  match keys with
  | [] => b
  | key :: rest => rounds (Bytes.xor b key) rest

/-- Encrypts a block. -/
def encrypt (key b : Bytes) : Bytes := encryptWith (roundKeys key) b

end Federation.Crypto.Aes
