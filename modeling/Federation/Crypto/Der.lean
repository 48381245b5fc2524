import Federation.Bytes

/-!
# DER

The tagged binary form of keys and certificates, as this library writes it and reads it back: every
length in its shortest form, and tags of one byte.

    item? (item tag body ++ rest) = some ⟨tag, body, rest⟩
-/

namespace Federation.Crypto.Der

/-! ## Tags -/

def boolean : UInt8 := 0x01

def integer : UInt8 := 0x02

def bitString : UInt8 := 0x03

def octetString : UInt8 := 0x04

def null : UInt8 := 0x05

def objectId : UInt8 := 0x06

def utcTime : UInt8 := 0x17

def generalTime : UInt8 := 0x18

def sequence : UInt8 := 0x30

/-- The tag of the `n`-th optional part that wraps another item. -/
def optional (n : UInt8) : UInt8 := 0xA0 + n

/-- The tag of the `n`-th optional part that holds bytes. -/
def optionalBytes (n : UInt8) : UInt8 := 0x80 + n

/-! ## Reading -/

/-- An item and the bytes after it. -/
structure Item where
  tag : UInt8
  body : Bytes
  rest : Bytes

/-- Reads a length in its shortest form. -/
def length? : Bytes → Option (Nat × Bytes)
  | [] => none
  | b :: rest =>
    let width := b.toNat - 0x80
    let digits := rest.take width
    let value := Bytes.toNat digits
    if b < 0x80 then some (b.toNat, rest)
    else if digits.length < width ∨ value < 0x80 ∨ Bytes.widthOf value < width then none
    else some (value, rest.drop width)

/-- Reads an item with a tag of one byte. -/
def item? : Bytes → Option Item
  | [] => none
  | tag :: rest => do
    let (n, rest) ← length? rest
    if tag &&& 0x1F = 0x1F ∨ rest.length < n then none
    else some ⟨tag, rest.take n, rest.drop n⟩

/-- Reads an item that must have the tag. -/
def tagged? (tag : UInt8) (b : Bytes) : Option (Bytes × Bytes) := do
  let i ← item? b
  if i.tag = tag then some (i.body, i.rest) else none

/-- Reads an item that may be absent; if its tag is there, so must be the whole item. -/
def optional? (tag : UInt8) (b : Bytes) : Option (Option Bytes × Bytes) :=
  if b.head? = some tag then (tagged? tag b).map fun (body, rest) => (some body, rest)
  else some (none, b)

/-- The unsigned number in the body of an integer, in its shortest form. -/
def unsigned? : Bytes → Option Nat
  | [] => none
  | [b] => if b < 0x80 then some b.toNat else none
  | b :: c :: rest =>
    if b ≥ 0x80 ∨ (b = 0 ∧ c < 0x80) then none else some (Bytes.toNat (b :: c :: rest))

/-- Reads an unsigned integer. -/
def unsignedItem? (b : Bytes) : Option (Nat × Bytes) := do
  let (body, rest) ← tagged? integer b
  return (← unsigned? body, rest)

/-! ## Writing -/

def lengthBytes (n : Nat) : Bytes :=
  if n < 0x80 then [UInt8.ofNat n]
  else UInt8.ofNat (0x80 + Bytes.widthOf n) :: Bytes.ofNat (Bytes.widthOf n) n

def item (tag : UInt8) (body : Bytes) : Bytes := tag :: lengthBytes body.length ++ body

/-- An unsigned integer; a zero byte keeps the highest bit clear. -/
def unsigned (n : Nat) : Bytes := item integer (Bytes.ofNat ((n.log2 + 1) / 8 + 1) n)

/-- A bit string of whole bytes. -/
def bitsItem (b : Bytes) : Bytes := item bitString (0 :: b)

end Federation.Crypto.Der
