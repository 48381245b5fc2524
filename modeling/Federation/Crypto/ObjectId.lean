import Federation.Crypto.Der
import Federation.Text.Hex

/-!
# Object identifiers

The numbers that name algorithms and curves. A first byte holds two of them, and each other one
takes seven bits to a byte, the last of which is below 128.

    read? (encode id) = some id, for the identifiers of this library

What others wrote is read as far as it goes: a last number may be cut off. An identifier with a
number of ten bytes or more is not read, and is shown as its bytes.
-/

namespace Federation.Crypto

/-- The numbers of an object identifier. -/
abbrev ObjectId := List Nat

namespace ObjectId

/-! ## Identifiers -/

def rsa : ObjectId := [1, 2, 840, 113549, 1, 1, 1]

def ec : ObjectId := [1, 2, 840, 10045, 2, 1]

def primeField : ObjectId := [1, 2, 840, 10045, 1, 1]

def p256 : ObjectId := [1, 2, 840, 10045, 3, 1, 7]

def p384 : ObjectId := [1, 3, 132, 0, 34]

/-! ## Reading -/

/-- The numbers that bytes write; `begun` is the number under way, if one is. -/
def numbersFrom (begun : Option Nat) : Bytes → List Nat
  | [] => begun.toList
  | b :: rest =>
    let n := (128 * begun.getD 0 + b.toNat % 128) % 2 ^ 64
    if b < 0x80 then n :: numbersFrom none rest else numbersFrom (some n) rest

/-- No complete number takes ten bytes or more; `seen` bytes of the one under way stand before. -/
def fitsFrom (seen : Nat) : Bytes → Bool
  | [] => true
  | b :: rest => if b < 0x80 then seen < 9 && fitsFrom 0 rest else fitsFrom (seen + 1) rest

/-- The numbers of an identifier; a zero alone is one number and not two. -/
def numbers : Bytes → ObjectId
  | [] => []
  | [0] => [0]
  | b :: rest => b.toNat / 40 :: b.toNat % 40 :: numbersFrom none rest

/-- Reads an identifier whose numbers are not too wide. -/
def read? (b : Bytes) : Option ObjectId := if fitsFrom 0 (b.drop 1) then some (numbers b) else none

/-- An identifier as messages show it. -/
def shown (b : Bytes) : String :=
  match read? b with
  | some id => ".".intercalate (id.map toString)
  | none => " ".intercalate (b.map fun x => String.ofList (Text.Hex.pair x))

/-! ## Writing -/

/-- A number with seven bits to a byte. -/
def numberBytes (n : Nat) : Bytes :=
  let width := n.log2 / 7
  (List.range (width + 1)).map fun i =>
    UInt8.ofNat (n / 128 ^ (width - i) % 128 + if i = width then 0 else 128)

/-- The bytes of an identifier of two numbers or more. -/
def encode : ObjectId → Bytes
  | a :: b :: rest => UInt8.ofNat (40 * a + b) :: rest.flatMap numberBytes
  | _ => []

/-- An identifier as an item. -/
def item (id : ObjectId) : Bytes := Der.item Der.objectId id.encode

/-! ## Lemmas -/

/-- The identifiers of this library read back. -/
theorem read?_encode : ∀ id ∈ [rsa, ec, primeField, p256, p384], read? (encode id) = some id := by
  decide +kernel

end ObjectId

end Federation.Crypto
