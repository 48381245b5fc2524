import Federation.Bytes

/-!
# Byte strings read back

A text is read back from its UTF-8 form, so different texts have different forms, and a byte string
from its number and its length. Blocks keep every byte in its place, and what is combined twice with
the same bytes is as before.

    text? (ofText s) = some s
    ofNat b.length (toNat b) = b
    (blocks n s).flatten = s
    xor (xor a k) k = a
-/

namespace Federation

/-- The loop that lists the bytes of an array adds those from `i` on. -/
theorem toList_loop (a : ByteArray) (i : Nat) (seen : List UInt8) :
    ByteArray.toList.loop a i seen = seen.reverse ++ a.data.toList.drop i := by
  fun_induction ByteArray.toList.loop a i seen with
  | case1 i seen h ih =>
    have hi : i < a.data.toList.length := h
    have hget : a.get! i = a.data.toList[i] := getElem!_pos a.data i h
    rw [ih, hget, List.drop_eq_getElem_cons hi]
    simp
  | case2 i seen h =>
    have hi : a.data.toList.length ≤ i := Nat.not_lt.1 h
    rw [List.drop_eq_nil_of_le hi, List.append_nil]

namespace Bytes

/-! ## Texts -/

theorem ofText_eq (s : String) : ofText s = s.toByteArray.data.toList := by
  unfold ofText ByteArray.toList
  rw [String.toUTF8_eq_toByteArray, toList_loop]
  rfl

theorem text?_ofText (s : String) : text? (ofText s) = some s := by
  unfold text? String.fromUTF8?
  rw [ofText_eq, Array.toArray_toList]
  exact dif_pos s.isValidUTF8

theorem ofText_inj (s t : String) (h : ofText s = ofText t) : s = t := by
  have hread := text?_ofText s
  rw [h, text?_ofText] at hread
  exact (Option.some.inj hread).symm

/-! ## Numbers -/

theorem toNatFrom_eq (acc : Nat) (b : Bytes) :
    toNatFrom acc b = acc * 256 ^ b.length + toNat b := by
  induction b generalizing acc with
  | nil => simp [toNatFrom, toNat]
  | cons x b ih =>
    show toNatFrom (256 * acc + x.toNat) b = acc * 256 ^ (b.length + 1) + toNatFrom _ b
    rw [ih, ih (256 * 0 + x.toNat), Nat.add_mul, Nat.mul_zero, Nat.zero_add, Nat.pow_succ,
      Nat.mul_comm 256 acc, Nat.mul_assoc, Nat.mul_comm 256, Nat.add_assoc]

theorem toNat_cons (x : UInt8) (b : Bytes) :
    toNat (x :: b) = x.toNat * 256 ^ b.length + toNat b := by
  show toNatFrom (256 * 0 + x.toNat) b = _
  rw [toNatFrom_eq, Nat.mul_zero, Nat.zero_add]

theorem toNat_lt (b : Bytes) : toNat b < 256 ^ b.length := by
  induction b with
  | nil => decide
  | cons x b ih =>
    have hx : x.toNat * 256 ^ b.length ≤ 255 * 256 ^ b.length :=
      Nat.mul_le_mul_right _ (Nat.le_of_lt_succ x.toNat_lt)
    rw [toNat_cons, List.length_cons, Nat.pow_succ]
    omega

theorem toNat_inj (a b : Bytes) (hlength : a.length = b.length) (h : toNat a = toNat b) :
    a = b := by
  induction a generalizing b with
  | nil => exact (List.length_eq_zero_iff.1 hlength.symm).symm
  | cons x a ih =>
    cases b with
    | nil => cases hlength
    | cons y b =>
      have hlength := Nat.succ.inj hlength
      have ha := toNat_lt a
      have hb := toNat_lt b
      rw [toNat_cons, toNat_cons, hlength] at h
      rw [hlength] at ha
      have hhead := congrArg (· / 256 ^ b.length) h
      have htail := congrArg (· % 256 ^ b.length) h
      simp only [Nat.mul_comm _ (256 ^ b.length), Nat.mul_add_div (Nat.zero_lt_of_lt ha),
        Nat.div_eq_of_lt ha, Nat.div_eq_of_lt hb, Nat.add_zero, Nat.mul_add_mod,
        Nat.mod_eq_of_lt ha, Nat.mod_eq_of_lt hb] at hhead htail
      rw [UInt8.toNat_inj.1 hhead, ih b hlength htail]

/-- Bytes are read back from their number. -/
theorem ofNat_toNat (b : Bytes) : ofNat b.length (toNat b) = b := by
  refine toNat_inj _ _ (length_ofNat _ _) ?_
  rw [toNat_ofNat, Nat.mod_eq_of_lt (toNat_lt b)]

/-- A number fits into its bytes. -/
theorem lt_pow_widthOf (n : Nat) : n < 256 ^ widthOf n := by
  unfold widthOf
  split
  · next h =>
    rw [h]
    decide
  · have hpow : 2 ^ (n.log2 + 1) ≤ 2 ^ (8 * (n.log2 / 8 + 1)) :=
      Nat.pow_le_pow_right (by decide) (by omega)
    rw [Nat.pow_mul] at hpow
    exact Nat.lt_of_lt_of_le Nat.lt_log2_self hpow

/-- It fits into no fewer. -/
theorem pow_le_of_lt_widthOf (n w : Nat) (h : w < widthOf n) : 256 ^ w ≤ n := by
  unfold widthOf at h
  split at h
  · cases h
  · next hn =>
    have hpow : 2 ^ (8 * w) ≤ 2 ^ n.log2 := Nat.pow_le_pow_right (by decide) (by omega)
    rw [Nat.pow_mul] at hpow
    exact Nat.le_trans hpow (Nat.log2_self_le hn)

theorem widthOf_le (n w : Nat) (h : n < 256 ^ w) : widthOf n ≤ w := by
  refine Nat.le_of_not_lt fun hlt => ?_
  have := pow_le_of_lt_widthOf n w hlt
  omega

/-! ## Blocks -/

section
variable {α : Type} (n : Nat)

theorem blocks_nil : blocks n ([] : List α) = [] := by
  rw [blocks]

theorem flatten_blocks (s : List α) : (blocks n s).flatten = s := by
  fun_induction blocks n s with
  | case1 => rfl
  | case2 x s ih => rw [List.flatten_cons, ih, List.cons_append, List.take_append_drop]

/-- The blocks of a list that is cut without a remainder are full. -/
theorem length_of_mem_blocks (hn : 0 < n) (s : List α) (h : s.length % n = 0) :
    ∀ b ∈ blocks n s, b.length = n := by
  fun_induction blocks n s with
  | case1 => simp
  | case2 x s ih =>
    have hlong : n ≤ s.length + 1 := Nat.le_of_dvd (by omega) (Nat.dvd_of_mod_eq_zero h)
    have hrest : (s.drop (n - 1)).length = s.length + 1 - n := by
      rw [List.length_drop]
      omega
    have hmod : (s.drop (n - 1)).length % n = 0 := by
      rw [hrest, ← Nat.mod_eq_sub_mod hlong]
      exact h
    intro b hb
    rcases List.mem_cons.1 hb with rfl | hb
    · simp only [List.length_cons, List.length_take]
      omega
    · exact ih hmod b hb

theorem length_blocks (hn : 0 < n) (s : List α) (h : s.length % n = 0) :
    (blocks n s).length = s.length / n := by
  have hsum : (blocks n s).flatten.length = n * (blocks n s).length := by
    rw [List.length_flatten, List.map_eq_replicate_iff.2 (length_of_mem_blocks n hn s h),
      List.sum_replicate_nat, Nat.mul_comm]
  rw [flatten_blocks] at hsum
  rw [hsum, Nat.mul_div_cancel_left _ hn]

/-- A front of full length is a block, and so is the whole of a shorter list. -/
theorem blocks_append (a s : List α) (ha : a ≠ [])
    (h : a.length = n ∨ (a.length ≤ n ∧ s = [])) : blocks n (a ++ s) = a :: blocks n s := by
  cases a with
  | nil => exact absurd rfl ha
  | cons x a =>
    rw [List.cons_append, blocks]
    rcases h with h | ⟨h, rfl⟩
    · have hlength : n - 1 = a.length := by
        rw [List.length_cons] at h
        omega
      rw [hlength, List.take_left, List.drop_left]
    · rw [List.length_cons] at h
      rw [List.append_nil, List.take_of_length_le (by omega), List.drop_of_length_le (by omega)]

end

/-! ## Combining -/

theorem length_xor (a b : Bytes) : (xor a b).length = min a.length b.length := by
  unfold xor
  exact List.length_zipWith

/-- What is combined twice with the same bytes is as before. -/
theorem xor_xor (a k : Bytes) (h : a.length ≤ k.length) : xor (xor a k) k = a := by
  unfold xor
  induction a generalizing k with
  | nil => rfl
  | cons x a ih =>
    cases k with
    | nil => cases h
    | cons y k =>
      rw [List.zipWith_cons_cons, List.zipWith_cons_cons, ih k (Nat.le_of_succ_le_succ h),
        UInt8.xor_assoc, UInt8.xor_self, UInt8.xor_zero]

end Bytes

end Federation
