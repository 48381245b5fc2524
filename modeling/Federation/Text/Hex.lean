/-!
# Hexadecimal digits

The digits of base sixteen, small when they are written and of either case when they are read, and
bytes as two of them each.

    decode? (encode b) = some b
-/

namespace Federation.Text.Hex

/-! ## Algorithm -/

/-- The digit of a number below sixteen. -/
def digit (n : Nat) : Char := if n < 10 then Char.ofNat (48 + n) else Char.ofNat (87 + n)

/-- The value of a digit. -/
def value? (c : Char) : Option Nat :=
  let n := c.toNat
  if 48 ≤ n && n ≤ 57 then some (n - 48)
  else if 97 ≤ n && n ≤ 102 then some (n - 87)
  else if 65 ≤ n && n ≤ 70 then some (n - 55)
  else none

/-- The two digits of a byte. -/
def pair (b : UInt8) : List Char := [digit (b.toNat / 16), digit (b.toNat % 16)]

def encode (bytes : List UInt8) : List Char := bytes.flatMap pair

/-- Reads pairs of digits and nothing else. -/
def decode? : List Char → Option (List UInt8)
  | [] => some []
  | [_] => none
  | a :: b :: rest => do
    let high ← value? a
    let low ← value? b
    return UInt8.ofNat (16 * high + low) :: (← decode? rest)

/-! ## Lemmas -/

theorem value?_digit : ∀ n < 16, value? (digit n) = some n := by decide

@[simp] theorem length_encode (bytes : List UInt8) : (encode bytes).length = 2 * bytes.length := by
  induction bytes with
  | nil => rfl
  | cons b bytes ih => simp [encode, pair] at ih ⊢; omega

@[simp] theorem decode?_encode (bytes : List UInt8) : decode? (encode bytes) = some bytes := by
  induction bytes with
  | nil => rfl
  | cons b bytes ih =>
    have hb : b.toNat < 256 := b.toNat_lt
    have hd : 16 * (b.toNat / 16) + b.toNat % 16 = b.toNat := by omega
    have he : encode (b :: bytes) = pair b ++ encode bytes := by simp [encode]
    rw [he, pair, List.cons_append, List.cons_append, List.nil_append, decode?,
      value?_digit _ (by omega), value?_digit _ (by omega), ih]
    show some (UInt8.ofNat (16 * (b.toNat / 16) + b.toNat % 16) :: bytes) = _
    rw [hd, UInt8.ofNat_toNat]

end Federation.Text.Hex
