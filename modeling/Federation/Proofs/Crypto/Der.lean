import Federation.Crypto.Der.Part
import Federation.Proofs.Bytes

/-!
# DER read back

What is written is read back with the bytes after it, by the strict reading and by the loose one.

    item? (item tag body ++ rest) = some ⟨tag, body, rest⟩
    unsignedItem? (unsigned n ++ rest) = some (n, rest)
    Part.numbered? tag (item tag body ++ rest) = some (partOf tag body rest)

The loose reading takes lengths below `2 ^ 64` only, and both take tags of one byte.
-/

namespace Federation.Crypto.Der

/-! ## Lengths -/

section
variable (n : Nat) (rest : Bytes)

/-- A length is one byte, or the number of its bytes and those. -/
theorem lengthBytes_cases (h : n < 2 ^ 64) :
    (n < 0x80 ∧ ∃ b, lengthBytes n = [b] ∧ b.toNat = n) ∨
    (0x80 ≤ n ∧ ∃ b, lengthBytes n = b :: Bytes.ofNat (Bytes.widthOf n) n ∧
      b.toNat = 0x80 + Bytes.widthOf n ∧ 1 ≤ Bytes.widthOf n ∧ Bytes.widthOf n ≤ 8) := by
  unfold lengthBytes
  by_cases hn : n < 0x80
  · rw [if_pos hn]
    exact Or.inl ⟨hn, _, rfl, by simp; omega⟩
  · rw [if_neg hn]
    have hwidth : Bytes.widthOf n ≤ 8 := Bytes.widthOf_le n 8 h
    have hpos : 1 ≤ Bytes.widthOf n := by
      unfold Bytes.widthOf
      rw [if_neg (by omega)]
      omega
    exact Or.inr ⟨Nat.le_of_not_lt hn, _, rfl, by simp; omega, hpos, hwidth⟩

theorem toNat_ofNat_widthOf : Bytes.toNat (Bytes.ofNat (Bytes.widthOf n) n) = n := by
  rw [Bytes.toNat_ofNat, Nat.mod_eq_of_lt (Bytes.lt_pow_widthOf n)]

theorem length?_lengthBytes (h : n < 2 ^ 64) :
    length? (lengthBytes n ++ rest) = some (n, rest) := by
  obtain ⟨hn, b, hb, hvalue⟩ | ⟨hn, b, hb, hvalue, hpos, hwidth⟩ := lengthBytes_cases n h
  · have hlt : b < 0x80 := by
      rw [UInt8.lt_iff_toNat_lt, hvalue]
      exact hn
    rw [hb, List.singleton_append, length?, if_pos hlt, hvalue]
  · have hlt : ¬ b < 0x80 := by
      rw [UInt8.lt_iff_toNat_lt, hvalue]
      exact Nat.not_lt.2 (Nat.le_add_right _ _)
    have hsub : b.toNat - 0x80 = (Bytes.ofNat (Bytes.widthOf n) n).length := by
      rw [hvalue, Nat.add_sub_cancel_left, Bytes.length_ofNat]
    rw [hb, List.cons_append, length?]
    simp only [hsub, List.take_left, List.drop_left, toNat_ofNat_widthOf]
    rw [if_neg hlt, Bytes.length_ofNat, if_neg (by omega)]

theorem size?_lengthBytes (h : n < 2 ^ 64) :
    size? (lengthBytes n ++ rest) = some (some n, rest) := by
  obtain ⟨hn, b, hb, hvalue⟩ | ⟨hn, b, hb, hvalue, hpos, hwidth⟩ := lengthBytes_cases n h
  · have hlt : b < 0x80 := by
      rw [UInt8.lt_iff_toNat_lt, hvalue]
      exact hn
    rw [hb, List.singleton_append, size?, if_pos hlt, hvalue]
  · have hlt : ¬ b < 0x80 := by
      rw [UInt8.lt_iff_toNat_lt, hvalue]
      exact Nat.not_lt.2 (Nat.le_add_right _ _)
    have hopen : b ≠ 0x80 := by
      rintro rfl
      change 0x80 = _ at hvalue
      omega
    have hlast : b ≠ 0xFF := by
      rintro rfl
      change 0xFF = _ at hvalue
      omega
    have hsub : b.toNat - 0x80 = (Bytes.ofNat (Bytes.widthOf n) n).length := by
      rw [hvalue, Nat.add_sub_cancel_left, Bytes.length_ofNat]
    rw [hb, List.cons_append, size?]
    simp only [hsub, List.take_left, List.drop_left, toNat_ofNat_widthOf]
    rw [if_neg hlt, if_neg hopen, if_neg (by simp [hlast]; omega)]

end

theorem length_lengthBytes (n : Nat) (h : n < 2 ^ 64) : (lengthBytes n).length ≤ 9 := by
  obtain ⟨-, b, hb, -⟩ | ⟨-, b, hb, -, -, hwidth⟩ := lengthBytes_cases n h
  · rw [hb, List.length_singleton]
    omega
  · rw [hb, List.length_cons, Bytes.length_ofNat]
    omega

/-! ## Items -/

/-- An item is a little longer than its body. -/
theorem length_item (tag : UInt8) (body : Bytes) (h : body.length < 2 ^ 64) :
    (item tag body).length ≤ body.length + 10 := by
  have hlength := length_lengthBytes body.length h
  simp only [item, List.length_cons, List.length_append]
  omega

section
variable (tag : UInt8) (body rest : Bytes) (h : body.length < 2 ^ 64)
include h

theorem item?_item (htag : tag &&& 0x1F ≠ 0x1F) :
    item? (item tag body ++ rest) = some ⟨tag, body, rest⟩ := by
  show item? (tag :: (lengthBytes body.length ++ body ++ rest)) = _
  rw [List.append_assoc, item?, length?_lengthBytes _ _ h]
  simp [htag]

theorem tagged?_item (htag : tag &&& 0x1F ≠ 0x1F) :
    tagged? tag (item tag body ++ rest) = some (body, rest) := by
  rw [tagged?, item?_item tag body rest h htag]
  simp

end

/-! ## Integers -/

/-- The highest bit of a written number is clear. -/
theorem unsigned?_ofNat (n : Nat) :
    unsigned? (Bytes.ofNat ((n.log2 + 1) / 8 + 1) n) = some n := by
  generalize hb : Bytes.ofNat ((n.log2 + 1) / 8 + 1) n = b
  have hlength : b.length = (n.log2 + 1) / 8 + 1 := hb ▸ Bytes.length_ofNat _ _
  have hlt : n < 2 ^ (8 * b.length - 1) :=
    Nat.lt_of_lt_of_le Nat.lt_log2_self (Nat.pow_le_pow_right (by decide) (by omega))
  have hvalue : Bytes.toNat b = n := by
    rw [← hb, Bytes.toNat_ofNat, Nat.mod_eq_of_lt]
    refine Nat.lt_of_lt_of_le hlt ?_
    rw [hlength, show (256 : Nat) = 2 ^ 8 from rfl, ← Nat.pow_mul]
    exact Nat.pow_le_pow_right (by decide) (by omega)
  match b with
  | [] => cases hlength
  | [x] =>
    have hx : x.toNat = n := by simpa [Bytes.toNat, Bytes.toNatFrom] using hvalue
    have hlow : x < 0x80 := by
      rw [UInt8.lt_iff_toNat_lt, hx]
      exact hlt
    rw [unsigned?, if_pos hlow, hx]
  | x :: y :: s =>
    rw [List.length_cons, List.length_cons] at hlength hlt
    have hs := Bytes.toNat_lt s
    have hsplit := hvalue
    rw [Bytes.toNat_cons, Bytes.toNat_cons, List.length_cons] at hsplit
    have hhigh : 2 ^ (8 * (s.length + 1 + 1) - 1) = 128 * 256 ^ (s.length + 1) := by
      rw [show 8 * (s.length + 1 + 1) - 1 = 7 + 8 * (s.length + 1) by omega, Nat.pow_add,
        Nat.pow_mul]
    have hx : ¬ x ≥ 0x80 := by
      intro hx
      have hle := Nat.mul_le_mul_right (256 ^ (s.length + 1)) (UInt8.le_iff_toNat_le.1 hx)
      change 128 * 256 ^ (s.length + 1) ≤ _ at hle
      omega
    have hfront : ¬ (x = 0 ∧ y < 0x80) := by
      rintro ⟨rfl, hy⟩
      have hle := Nat.mul_le_mul_right (256 ^ s.length)
        (Nat.le_of_lt_succ (UInt8.lt_iff_toNat_lt.1 hy))
      change _ ≤ 127 * 256 ^ s.length at hle
      have hn : n ≠ 0 := by
        rintro rfl
        cases hlength
      have hpow : 2 ^ (7 + 8 * s.length) ≤ 2 ^ n.log2 :=
        Nat.pow_le_pow_right (by decide) (by omega)
      rw [Nat.pow_add, Nat.pow_mul] at hpow
      change 128 * 256 ^ s.length ≤ _ at hpow
      have hself := Nat.log2_self_le hn
      rw [UInt8.toNat_zero, Nat.zero_mul, Nat.zero_add] at hsplit
      omega
    rw [unsigned?, if_neg (not_or.2 ⟨hx, hfront⟩), hvalue]

theorem unsignedItem?_unsigned (n : Nat) (rest : Bytes) (h : n.log2 < 2 ^ 64) :
    unsignedItem? (unsigned n ++ rest) = some (n, rest) := by
  rw [unsignedItem?, unsigned, tagged?_item _ _ _ (by rw [Bytes.length_ofNat]; omega) (by decide)]
  simp [unsigned?_ofNat]

/-- An integer has a byte for every eight bits and a few more. -/
theorem length_unsigned (n : Nat) (h : n.log2 < 2 ^ 64) :
    (unsigned n).length ≤ (n.log2 + 1) / 8 + 11 := by
  have hlength := length_item integer (Bytes.ofNat ((n.log2 + 1) / 8 + 1) n)
    (by rw [Bytes.length_ofNat]; omega)
  rw [Bytes.length_ofNat] at hlength
  exact hlength

/-! ## Parts -/

/-- A written item as the part that it is read as. -/
def partOf (tag : UInt8) (body rest : Bytes) : Part where
  context := tag &&& 0xC0 == 0x80
  nested := tag &&& 0x20 != 0
  number := number tag
  size? := some body.length
  body
  rest

@[simp] theorem partOf_body (tag : UInt8) (body rest : Bytes) :
    (partOf tag body rest).body = body := rfl

@[simp] theorem partOf_rest (tag : UInt8) (body rest : Bytes) :
    (partOf tag body rest).rest = rest := rfl

theorem simple?_partOf (tag : UInt8) (body rest : Bytes) (h : tag &&& 0x20 = 0) :
    (partOf tag body rest).simple? = some (partOf tag body rest) := by
  have hnested : (partOf tag body rest).nested = false := bne_eq_false_iff_eq.2 h
  rw [Part.simple?, hnested, if_neg Bool.false_ne_true]

section
variable (tag : UInt8) (body rest : Bytes) (h : body.length < 2 ^ 64) (htag : number tag ≠ 31)
include h htag

theorem read?_item : Part.read? (item tag body ++ rest) = some (partOf tag body rest) := by
  show Part.read? (tag :: (lengthBytes body.length ++ body ++ rest)) = _
  have hhead : head? (tag :: (lengthBytes body.length ++ body ++ rest)) = some
      (⟨tag &&& 0xC0 == 0x80, tag &&& 0x20 != 0, number tag, some body.length⟩, body ++ rest) := by
    rw [List.append_assoc, head?, number?, if_neg htag]
    simp [size?_lengthBytes _ _ h]
  rw [Part.read?, hhead]
  simp [partOf]

theorem numbered?_item :
    Part.numbered? tag (item tag body ++ rest) = some (partOf tag body rest) := by
  rw [Part.numbered?, read?_item tag body rest h htag]
  simp [partOf]

end

theorem bits?_partOf (bits rest : Bytes) :
    (partOf bitString (0 :: bits) rest).bits? = some bits := by
  rw [Part.bits?, simple?_partOf bitString _ rest (by decide)]
  simp only [Option.bind_eq_bind, Option.bind_some, partOf_body]
  cases hlast : bits.getLast? with
  | none =>
    rw [List.getLast?_eq_none_iff.1 hlast]
    rfl
  | some last => exact if_pos ⟨by decide, Nat.mod_one _⟩

end Federation.Crypto.Der
