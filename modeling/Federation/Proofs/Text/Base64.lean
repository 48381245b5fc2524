import Federation.Text.Base64

/-!
# What base64 keeps

Bytes come back from their base64 form, also when blanks may stand in it, and nothing but that form
is read.

    decode s = some b  ↔  s = encode b
    decodeSpaced (encode b) = some b
-/

namespace Federation.Text.Base64

/-! ## Letters -/

theorem letters_below (p : Nat → Bool) (h : (List.range 64).all p = true) (n : Nat) (hn : n < 64) :
    p n = true :=
  List.all_eq_true.1 h n (List.mem_range.2 hn)

theorem value?_standard (n : Nat) (h : n < 64) : value? (standard n) = some n :=
  of_decide_eq_true (letters_below (fun n => decide (value? (standard n) = some n)) (by decide) n h)

/-- Only the letters of the alphabet have a number. -/
theorem value?_eq_some (c : Char) (n : Nat) : value? c = some n ↔ n < 64 ∧ c = standard n := by
  constructor
  · intro h
    have hc (m : Nat) (hm : m = c.toNat) : Char.ofNat m = c := by rw [hm, Char.ofNat_toNat]
    unfold value? at h
    unfold standard letter
    simp only [Bool.and_eq_true, decide_eq_true_eq] at h
    split at h
    · cases h
      exact ⟨by omega, by rw [if_pos (by omega), hc _ (by omega)]⟩
    split at h
    · cases h
      exact ⟨by omega, by rw [if_neg (by omega), if_pos (by omega), hc _ (by omega)]⟩
    split at h
    · cases h
      refine ⟨by omega, ?_⟩
      rw [if_neg (by omega), if_neg (by omega), if_pos (by omega), hc _ (by omega)]
    split at h
    · next hplus =>
      cases h
      exact ⟨by omega, hplus⟩
    split at h
    · next hslash =>
      cases h
      exact ⟨by omega, hslash⟩
    · cases h
  · rintro ⟨hn, rfl⟩
    exact value?_standard n hn

theorem standard_ne_pad (n : Nat) (h : n < 64) : standard n ≠ '=' :=
  of_decide_eq_true (letters_below (fun n => decide (standard n ≠ '=')) (by decide) n h)

theorem isBlank_standard (n : Nat) (h : n < 64) : isBlank (standard n) = false := by
  have hall := letters_below (fun n => !isBlank (standard n)) (by decide) n h
  rwa [Bool.not_eq_true'] at hall

theorem standard_ne_dash (n : Nat) (h : n < 64) : standard n ≠ '-' :=
  of_decide_eq_true (letters_below (fun n => decide (standard n ≠ '-')) (by decide) n h)

/-! ## Groups -/

theorem decode_group (a b c d : Char) (rest : List Char) (p q r s : Nat)
    (ha : value? a = some p) (hb : value? b = some q) (hc : value? c = some r)
    (hd : value? d = some s) (hne : d ≠ '=') :
    decode (a :: b :: c :: d :: rest) = (decode rest).map fun more =>
      UInt8.ofNat (p * 4 + q / 16) :: UInt8.ofNat (q % 16 * 16 + r / 4)
        :: UInt8.ofNat (r % 4 * 64 + s) :: more := by
  rw [decode.eq_4]
  · rw [ha, hb, hc, hd]
    cases decode rest <;> rfl
  · intro _ hd' _
    exact hne hd'
  · intro hd' _
    exact hne hd'

theorem ofNat_eq (a : UInt8) (n : Nat) (h : n = a.toNat) : UInt8.ofNat n = a := by
  rw [h, UInt8.ofNat_toNat]

theorem toNat_ofNat (n : Nat) (h : n < 256) : (UInt8.ofNat n).toNat = n := by
  rw [UInt8.toNat_ofNat', Nat.mod_eq_of_lt h]

/-! ## Main results -/

/-- The bytes come back. -/
theorem decode_encode (b : List UInt8) : decode (encode b) = some b := by
  match b with
  | [] => rfl
  | [a] =>
    have ha := a.toNat_lt
    show decode [standard _, standard _, '=', '='] = _
    rw [decode.eq_2, value?_standard _ (by omega), value?_standard _ (by omega)]
    show (if _ then _ else _) = _
    rw [if_pos (by omega)]
    rw [ofNat_eq a _ (by omega)]
  | [a, b] =>
    have ha := a.toNat_lt
    have hb := b.toNat_lt
    show decode [standard _, standard _, standard _, '='] = _
    rw [decode.eq_3 _ _ _ (fun h => standard_ne_pad _ (by omega) h)]
    rw [value?_standard _ (by omega), value?_standard _ (by omega), value?_standard _ (by omega)]
    show (if _ then _ else _) = _
    rw [if_pos (by omega), ofNat_eq a _ (by omega), ofNat_eq b _ (by omega)]
  | a :: b :: c :: rest =>
    have ha := a.toNat_lt
    have hb := b.toNat_lt
    have hc := c.toNat_lt
    show decode (standard _ :: standard _ :: standard _ :: standard _ :: encode rest) = _
    rw [decode_group _ _ _ _ _ _ _ _ _ (value?_standard _ (by omega)) (value?_standard _ (by omega))
      (value?_standard _ (by omega)) (value?_standard _ (by omega)) (standard_ne_pad _ (by omega)),
      decode_encode rest]
    show some _ = _
    rw [ofNat_eq a _ (by omega), ofNat_eq b _ (by omega), ofNat_eq c _ (by omega)]

/-- What is read was written, so a text that is read is the one form of its bytes. -/
theorem encode_of_decode (s : List Char) (b : List UInt8) (h : decode s = some b) :
    s = encode b := by
  induction s using decode.induct generalizing b with
  | case1 =>
    cases h
    rfl
  | case2 c₁ c₂ =>
    simp only [decode.eq_2, bind, Option.bind_eq_some_iff, value?_eq_some] at h
    obtain ⟨p, ⟨hp, rfl⟩, q, ⟨hq, rfl⟩, h⟩ := h
    by_cases hbits : q % 16 = 0
    · rw [if_pos hbits] at h
      cases h
      show _ = [standard _, standard _, '=', '=']
      rw [toNat_ofNat _ (by omega), show (p * 4 + q / 16) / 4 = p by omega,
        show (p * 4 + q / 16) % 4 * 16 = q by omega]
    · rw [if_neg hbits] at h
      cases h
  | case3 c₁ c₂ c₃ hne =>
    simp only [decode.eq_3 _ _ _ hne, bind, Option.bind_eq_some_iff, value?_eq_some] at h
    obtain ⟨p, ⟨hp, rfl⟩, q, ⟨hq, rfl⟩, r, ⟨hr, rfl⟩, h⟩ := h
    by_cases hbits : r % 4 = 0
    · rw [if_pos hbits] at h
      cases h
      show _ = [standard _, standard _, standard _, '=']
      rw [toNat_ofNat _ (by omega), toNat_ofNat _ (by omega),
        show (p * 4 + q / 16) / 4 = p by omega,
        show (p * 4 + q / 16) % 4 * 16 + (q % 16 * 16 + r / 4) / 16 = q by omega,
        show (q % 16 * 16 + r / 4) % 16 * 4 = r by omega]
    · rw [if_neg hbits] at h
      cases h
  | case4 c₁ c₂ c₃ c₄ rest hne hne' ih =>
    simp only [decode.eq_4 _ _ _ _ _ hne hne', bind, Option.bind_eq_some_iff, value?_eq_some] at h
    obtain ⟨p, ⟨hp, rfl⟩, q, ⟨hq, rfl⟩, r, ⟨hr, rfl⟩, s, ⟨hs, rfl⟩, more, hmore, h⟩ := h
    cases h
    show _ = standard _ :: standard _ :: standard _ :: standard _ :: encode more
    rw [toNat_ofNat _ (by omega), toNat_ofNat _ (by omega), toNat_ofNat _ (by omega),
      show (p * 4 + q / 16) / 4 = p by omega,
      show (p * 4 + q / 16) % 4 * 16 + (q % 16 * 16 + r / 4) / 16 = q by omega,
      show (q % 16 * 16 + r / 4) % 16 * 4 + (r % 4 * 64 + s) / 64 = r by omega,
      show (r % 4 * 64 + s) % 64 = s by omega, ← ih more hmore]
  | case5 s h0 h2 h1 h4 =>
    rw [decode.eq_5 s h0 h2 h1 h4] at h
    cases h

theorem decode_eq_some (s : List Char) (b : List UInt8) : decode s = some b ↔ s = encode b :=
  ⟨encode_of_decode s b, fun h => h ▸ decode_encode b⟩

/-- Every character of the form is a letter of the alphabet or fills up the last group. -/
theorem eq_of_mem_encode (b : List UInt8) :
    ∀ c ∈ encode b, c = '=' ∨ ∃ n, n < 64 ∧ c = standard n := by
  match b with
  | [] => intro c hc; cases hc
  | [a] =>
    have ha := a.toNat_lt
    show ∀ c ∈ [standard _, standard _, '=', '='], _
    simp only [List.forall_mem_cons]
    exact ⟨Or.inr ⟨_, by omega, rfl⟩, Or.inr ⟨_, by omega, rfl⟩, Or.inl trivial, Or.inl trivial, nofun⟩
  | [a, b] =>
    have ha := a.toNat_lt
    have hb := b.toNat_lt
    show ∀ c ∈ [standard _, standard _, standard _, '='], _
    simp only [List.forall_mem_cons]
    exact ⟨Or.inr ⟨_, by omega, rfl⟩, Or.inr ⟨_, by omega, rfl⟩, Or.inr ⟨_, by omega, rfl⟩,
      Or.inl trivial, nofun⟩
  | a :: b :: c :: rest =>
    have ha := a.toNat_lt
    have hb := b.toNat_lt
    have hc := c.toNat_lt
    show ∀ c ∈ standard _ :: standard _ :: standard _ :: standard _ :: encode rest, _
    simp only [List.forall_mem_cons]
    exact ⟨Or.inr ⟨_, by omega, rfl⟩, Or.inr ⟨_, by omega, rfl⟩, Or.inr ⟨_, by omega, rfl⟩,
      Or.inr ⟨_, by omega, rfl⟩, eq_of_mem_encode rest⟩

theorem isBlank_of_mem_encode (b : List UInt8) : ∀ c ∈ encode b, isBlank c = false := by
  intro c hc
  rcases eq_of_mem_encode b c hc with rfl | ⟨n, hn, rfl⟩
  · decide
  · exact isBlank_standard n hn

/-- So they do where blanks are skipped, since the form has none. -/
theorem decodeSpaced_encode (b : List UInt8) : decodeSpaced (encode b) = some b := by
  have hkept : dropBlanks (encode b) = encode b :=
    List.filter_eq_self.2 fun c hc => by rw [isBlank_of_mem_encode b c hc]; rfl
  unfold decodeSpaced
  rw [hkept, decode_encode]

end Federation.Text.Base64
