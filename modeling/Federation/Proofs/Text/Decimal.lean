import Federation.Text.Decimal

/-!
# What numerals keep

A numeral of a fixed width reads back as the last digits of its number, and one that is filled up
with zeros as the whole number. No other run of digits is read as a number of that width.

    take? w (fixed w n ++ rest) = some (n % 10 ^ w, rest)
    take? w s = some (n, rest) ↔ n < 10 ^ w ∧ s = fixed w n ++ rest
    readFrom 0 (padded w n) = n
-/

namespace Federation.Text.Decimal

/-! ## Digits -/

theorem digits_below (p : Nat → Bool) (h : (List.range 10).all p = true) (n : Nat) :
    p (n % 10) = true :=
  List.all_eq_true.1 h _ (List.mem_range.2 (Nat.mod_lt n (by decide)))

theorem value_digit (n : Nat) : value (digit n) = n % 10 :=
  of_decide_eq_true
    (digits_below (fun m => decide (value (Char.ofNat (48 + m)) = m)) (by decide) n)

theorem isDigit_digit (n : Nat) : isDigit (digit n) = true :=
  digits_below (fun m => isDigit (Char.ofNat (48 + m))) (by decide) n

theorem digit_value (c : Char) (h : isDigit c = true) (n : Nat) :
    digit (10 * n + value c) = c := by
  unfold isDigit at h
  unfold digit value
  rw [Bool.and_eq_true, decide_eq_true_eq, decide_eq_true_eq] at h
  rw [show 48 + (10 * n + (c.toNat - 48)) % 10 = c.toNat by omega, Char.ofNat_toNat]

theorem value_lt (c : Char) (h : isDigit c = true) : value c < 10 := by
  unfold isDigit at h
  unfold value
  rw [Bool.and_eq_true, decide_eq_true_eq, decide_eq_true_eq] at h
  omega

theorem readFrom_append (acc : Nat) (s t : List Char) :
    readFrom acc (s ++ t) = readFrom (readFrom acc s) t := List.foldl_append

/-! ## Fixed width -/

theorem readFrom_fixed (w n : Nat) : readFrom 0 (fixed w n) = n % 10 ^ w := by
  induction w generalizing n with
  | zero => rw [Nat.pow_zero, Nat.mod_one]; rfl
  | succ w ih =>
    rw [fixed, readFrom_append, ih]
    show 10 * (n / 10 % 10 ^ w) + value (digit n) = _
    rw [value_digit, Nat.pow_succ, Nat.mul_comm (10 ^ w) 10, Nat.mod_mul]
    omega

theorem isDigit_of_mem_fixed (w n : Nat) : ∀ c ∈ fixed w n, isDigit c = true := by
  induction w generalizing n with
  | zero => intro c hc; cases hc
  | succ w ih =>
    intro c hc
    rw [fixed, List.mem_append, List.mem_singleton] at hc
    rcases hc with hc | rfl
    · exact ih (n / 10) c hc
    · exact isDigit_digit n

theorem take?_fixed (w n : Nat) (rest : List Char) :
    take? w (fixed w n ++ rest) = some (n % 10 ^ w, rest) := by
  unfold take?
  rw [List.take_left' (length_fixed w n), List.drop_left' (length_fixed w n)]
  have hdigits : (fixed w n).all isDigit = true := List.all_eq_true.2 (isDigit_of_mem_fixed w n)
  simp only
  rw [if_pos ⟨length_fixed w n, hdigits⟩, readFrom_fixed]

/-- Digits are the numeral of the number that they write. -/
theorem fixed_readFrom (ds : List Char) (h : ∀ c ∈ ds, isDigit c = true) :
    fixed ds.length (readFrom 0 ds) = ds := by
  obtain ⟨w, hw⟩ : ∃ w, w = ds.length := ⟨_, rfl⟩
  induction w generalizing ds with
  | zero =>
    rw [List.length_eq_zero_iff.1 hw.symm]
    rfl
  | succ w ih =>
    rcases List.eq_nil_or_concat ds with rfl | ⟨init, c, rfl⟩
    · cases hw
    · rw [List.concat_eq_append] at h hw ⊢
      rw [List.forall_mem_append, List.forall_mem_singleton] at h
      rw [List.length_append, List.length_singleton, Nat.succ_inj] at hw
      rw [List.length_append, List.length_singleton, readFrom_append, fixed]
      show fixed init.length ((10 * readFrom 0 init + value c) / 10)
        ++ [digit (10 * readFrom 0 init + value c)] = init ++ [c]
      have hc := value_lt c h.2
      rw [digit_value c h.2, show (10 * readFrom 0 init + value c) / 10 = readFrom 0 init by omega,
        ih init h.1 hw]

theorem readFrom_lt (ds : List Char) (h : ∀ c ∈ ds, isDigit c = true) :
    readFrom 0 ds < 10 ^ ds.length := by
  have hread := congrArg (readFrom 0) (fixed_readFrom ds h)
  rw [readFrom_fixed] at hread
  rw [← hread]
  exact Nat.mod_lt _ (Nat.pow_pos (by decide))

/-- A run of digits is read exactly if it is the numeral of its number. -/
theorem take?_eq_some (w : Nat) (s : List Char) (n : Nat) (rest : List Char) :
    take? w s = some (n, rest) ↔ n < 10 ^ w ∧ s = fixed w n ++ rest := by
  constructor
  · intro h
    unfold take? at h
    simp only at h
    split at h
    · next hdigits =>
      obtain ⟨hlength, hall⟩ := hdigits
      rw [List.all_eq_true] at hall
      cases h
      have hfixed := fixed_readFrom (s.take w) hall
      have hlt := readFrom_lt (s.take w) hall
      rw [hlength] at hfixed hlt
      exact ⟨hlt, by rw [hfixed, List.take_append_drop]⟩
    · cases h
  · rintro ⟨hn, rfl⟩
    rw [take?_fixed, Nat.mod_eq_of_lt hn]

theorem take?_of_not_isDigit (w : Nat) (c : Char) (rest : List Char) (h : isDigit c = false) :
    take? (w + 1) (c :: rest) = none := by
  have hdigits : ((c :: rest).take (w + 1)).all isDigit = false := by
    rw [List.take_succ_cons, List.all_cons, h, Bool.false_and]
  unfold take?
  simp only [hdigits, Bool.false_eq_true, and_false, if_false]

/-- Numbers of at most `w` digits have their own numerals. -/
theorem fixed_inj (w m n : Nat) (hm : m < 10 ^ w) (hn : n < 10 ^ w) (h : fixed w m = fixed w n) :
    m = n := by
  have hread := congrArg (readFrom 0) h
  rwa [readFrom_fixed, readFrom_fixed, Nat.mod_eq_of_lt hm, Nat.mod_eq_of_lt hn] at hread

/-! ## Shortest numerals -/

theorem readFrom_replicate (k : Nat) : readFrom 0 (List.replicate k '0') = 0 := by
  induction k with
  | zero => rfl
  | succ k ih => exact ih

theorem toList_toString (n : Nat) : (toString n).toList = Nat.toDigits 10 n := Nat.toList_repr

theorem readFrom_toDigits (n : Nat) : readFrom 0 (Nat.toDigits 10 n) = n :=
  Nat.ofDigitChars_ten_toDigits

theorem readFrom_padded (w n : Nat) : readFrom 0 (padded w n) = n := by
  unfold padded
  simp only
  rw [readFrom_append, readFrom_replicate, toList_toString, readFrom_toDigits]

theorem isDigit_of_mem_padded (w n : Nat) : ∀ c ∈ padded w n, isDigit c = true := by
  intro c hc
  unfold padded at hc
  rw [toList_toString, List.mem_append, List.mem_replicate] at hc
  rcases hc with ⟨-, rfl⟩ | hc
  · decide
  · have hdigit := Nat.isDigit_of_mem_toDigits (by decide) (by decide) hc
    rw [Char.isDigit, Bool.and_eq_true, decide_eq_true_eq, decide_eq_true_eq] at hdigit
    unfold isDigit
    rw [Bool.and_eq_true, decide_eq_true_eq, decide_eq_true_eq]
    exact hdigit

end Federation.Text.Decimal
