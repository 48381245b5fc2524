import Federation.Crypto.Cipher.Aes

/-!
# Galois/Counter mode

Authenticated encryption with AES: the text is combined with a key stream, and a tag over the result
shows any change to it. The nonce has twelve bytes and the tag sixteen; nothing but the text is
authenticated.

    decrypt key nonce (encrypt key nonce text) = some text
-/

namespace Federation.Crypto.Gcm

/-! ## Algorithm -/

def nonceSize : Nat := 12

def tagSize : Nat := 16

/-- The product in the field of 2 ^ 128 elements, whose lowest power stands at the highest bit: `v`
runs through the multiples of `y` by the powers, and the bits of `x` choose among them. -/
def mulFrom : Nat → Nat → Nat → Nat → Nat
  | 0, _, _, z => z
  | n + 1, x, v, z =>
    mulFrom n x (if v % 2 = 1 then (v / 2) ^^^ (0xE1 <<< 120) else v / 2)
      (if x.testBit n then z ^^^ v else z)

def mul (x y : Nat) : Nat := mulFrom 128 x y 0

/-- A block filled up with zeros, as a number. -/
def element (block : Bytes) : Nat := Bytes.toNat (block ++ List.replicate (16 - block.length) 0)

/-- The hash of a text and its length under the key `h`. -/
def hash (h : Nat) (text : Bytes) : Nat :=
  let body := (Bytes.blocks 16 text).foldl (fun x block => mul (x ^^^ element block) h) 0
  mul (body ^^^ (8 * text.length)) h

/-- The counter block of a nonce. -/
def counter (nonce : Bytes) (i : Nat) : Bytes := nonce ++ Bytes.ofNat 4 i

/-- The text combined with the key stream that starts at counter 2. -/
def combine (keys : List Bytes) (nonce text : Bytes) : Bytes :=
  ((Bytes.blocks 16 text).zipIdx 2).flatMap fun (block, i) =>
    Bytes.xor block (Aes.encryptWith keys (counter nonce i))

/-- The tag of an encrypted text. -/
def tag (keys : List Bytes) (nonce text : Bytes) : Bytes :=
  let h := Bytes.toNat (Aes.encryptWith keys (List.replicate 16 0))
  Bytes.xor (Bytes.ofNat 16 (hash h text)) (Aes.encryptWith keys (counter nonce 1))

/-- The encrypted text and its tag. -/
def encrypt (key nonce text : Bytes) : Bytes :=
  let keys := Aes.roundKeys key
  let body := combine keys nonce text
  body ++ tag keys nonce body

/-- The text of an encrypted one, if its tag is right. -/
def decrypt (key nonce message : Bytes) : Option Bytes :=
  let keys := Aes.roundKeys key
  let body := message.take (message.length - tagSize)
  if tagSize ≤ message.length ∧ tag keys nonce body = message.drop (message.length - tagSize) then
    some (combine keys nonce body)
  else none

end Federation.Crypto.Gcm
