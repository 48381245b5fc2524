import Federation.Proofs.Text.Base64

/-!
# Base64 by its bits

What a text in base64 spells, said through bits alone: the bits of the bytes in order, six to a
letter. The last letter is filled up with zeros and the last group of four with `=`, neither further
than needed, so there is one text for each byte string, and it is the one that is read.

    Spells s b ↔ s = encode b
    decode s = some b ↔ Spells s b
-/

namespace Federation.Text.Base64

/-! ## Bits -/

/-- The last `w` bits of a number, the highest first. -/
def bits : Nat → Nat → List Bool
  | 0, _ => []
  | w + 1, n => bits w (n / 2) ++ [decide (n % 2 = 1)]

theorem length_bits (w n : Nat) : (bits w n).length = w := by
  induction w generalizing n with
  | zero => rfl
  | succ w ih => rw [bits, List.length_append, ih, List.length_singleton]

theorem bits_add (v w n : Nat) : bits (v + w) n = bits v (n / 2 ^ w) ++ bits w n := by
  induction w generalizing n with
  | zero => simp [bits]
  | succ w ih =>
    rw [← Nat.add_assoc, bits, bits, ih, Nat.div_div_eq_div_mul, Nat.pow_succ, Nat.mul_comm,
      List.append_assoc]

/-- Only the last bits of a number count. -/
theorem bits_congr (w m n : Nat) (h : m % 2 ^ w = n % 2 ^ w) : bits w m = bits w n := by
  induction w generalizing m n with
  | zero => rfl
  | succ w ih =>
    rw [Nat.pow_succ, Nat.mul_comm, Nat.mod_mul, Nat.mod_mul] at h
    have hlast : m % 2 = n % 2 := by omega
    rw [bits, bits, hlast, ih (m / 2) (n / 2) (by omega)]

theorem bits_zero (w : Nat) : bits w 0 = List.replicate w false := by
  induction w with
  | zero => rfl
  | succ w ih =>
    rw [bits, Nat.zero_div, ih, List.replicate_succ']
    rfl

theorem bits_inj (w m n : Nat) (hm : m < 2 ^ w) (hn : n < 2 ^ w) (h : bits w m = bits w n) :
    m = n := by
  induction w generalizing m n with
  | zero => omega
  | succ w ih =>
    rw [bits, bits] at h
    obtain ⟨hinit, hlast⟩ := List.append_inj' h rfl
    have hhalf := ih (m / 2) (n / 2) (by omega) (by omega) hinit
    have hparity : m % 2 = 1 ↔ n % 2 = 1 := by simpa using hlast
    omega

theorem length_flatMap_bits {α : Type} (w : Nat) (f : α → Nat) (l : List α) :
    (l.flatMap fun a => bits w (f a)).length = w * l.length := by
  induction l with
  | nil => rfl
  | cons a l ih =>
    rw [List.flatMap_cons, List.length_append, length_bits, ih, List.length_cons, Nat.mul_succ,
      Nat.add_comm]

/-- Numbers of one width are told apart by their bits in a row. -/
theorem flatMap_bits_inj (w : Nat) (l l' : List Nat) (hl : ∀ n ∈ l, n < 2 ^ w)
    (hl' : ∀ n ∈ l', n < 2 ^ w) (hlength : l.length = l'.length)
    (h : l.flatMap (bits w) = l'.flatMap (bits w)) : l = l' := by
  induction l generalizing l' with
  | nil => exact (List.length_eq_zero_iff.1 hlength.symm).symm
  | cons m l ih =>
    cases l' with
    | nil => cases hlength
    | cons n l' =>
      rw [List.flatMap_cons, List.flatMap_cons] at h
      obtain ⟨hhead, htail⟩ := List.append_inj h (by rw [length_bits, length_bits])
      rw [List.forall_mem_cons] at hl hl'
      rw [bits_inj w m n hl.1 hl'.1 hhead, ih l' hl.2 hl'.2 (Nat.succ.inj hlength) htail]

/-! ## Groups -/

/-- Three bytes are four letters. -/
theorem bits_group (x y z : Nat) (hy : y < 256) (hz : z < 256) :
    bits 6 (x / 4) ++ (bits 6 (x % 4 * 16 + y / 16) ++ (bits 6 (y % 16 * 4 + z / 64)
      ++ bits 6 (z % 64))) = bits 8 x ++ (bits 8 y ++ bits 8 z) := by
  obtain ⟨n, hn⟩ : ∃ n, n = (x * 256 + y) * 256 + z := ⟨_, rfl⟩
  calc bits 6 (x / 4) ++ (bits 6 (x % 4 * 16 + y / 16) ++ (bits 6 (y % 16 * 4 + z / 64)
        ++ bits 6 (z % 64)))
      = bits 6 (n / 2 ^ 6 / 2 ^ 6 / 2 ^ 6) ++ bits 6 (n / 2 ^ 6 / 2 ^ 6) ++ bits 6 (n / 2 ^ 6)
        ++ bits 6 n := by
        rw [bits_congr 6 (x / 4) (n / 2 ^ 6 / 2 ^ 6 / 2 ^ 6) (by omega),
          bits_congr 6 (x % 4 * 16 + y / 16) (n / 2 ^ 6 / 2 ^ 6) (by omega),
          bits_congr 6 (y % 16 * 4 + z / 64) (n / 2 ^ 6) (by omega),
          bits_congr 6 (z % 64) n (by omega)]
        simp only [List.append_assoc]
    _ = bits 24 n := by rw [← bits_add, ← bits_add, ← bits_add]
    _ = bits 8 (n / 2 ^ 8 / 2 ^ 8) ++ bits 8 (n / 2 ^ 8) ++ bits 8 n := by
        rw [← bits_add, ← bits_add]
    _ = bits 8 x ++ (bits 8 y ++ bits 8 z) := by
        rw [bits_congr 8 (n / 2 ^ 8 / 2 ^ 8) x (by omega), bits_congr 8 (n / 2 ^ 8) y (by omega),
          bits_congr 8 n z (by omega), List.append_assoc]

/-- Two bytes are three letters, the last with two bits to spare. -/
theorem bits_group_two (x y : Nat) (hy : y < 256) :
    bits 6 (x / 4) ++ (bits 6 (x % 4 * 16 + y / 16) ++ bits 6 (y % 16 * 4))
      = bits 8 x ++ (bits 8 y ++ List.replicate 2 false) := by
  obtain ⟨n, hn⟩ : ∃ n, n = (x * 256 + y) * 4 := ⟨_, rfl⟩
  calc bits 6 (x / 4) ++ (bits 6 (x % 4 * 16 + y / 16) ++ bits 6 (y % 16 * 4))
      = bits 6 (n / 2 ^ 6 / 2 ^ 6) ++ bits 6 (n / 2 ^ 6) ++ bits 6 n := by
        rw [bits_congr 6 (x / 4) (n / 2 ^ 6 / 2 ^ 6) (by omega),
          bits_congr 6 (x % 4 * 16 + y / 16) (n / 2 ^ 6) (by omega),
          bits_congr 6 (y % 16 * 4) n (by omega), List.append_assoc]
    _ = bits 18 n := by rw [← bits_add, ← bits_add]
    _ = bits 8 (n / 2 ^ 2 / 2 ^ 8) ++ bits 8 (n / 2 ^ 2) ++ bits 2 n := by
        rw [← bits_add, ← bits_add]
    _ = bits 8 x ++ (bits 8 y ++ List.replicate 2 false) := by
        rw [bits_congr 8 (n / 2 ^ 2 / 2 ^ 8) x (by omega), bits_congr 8 (n / 2 ^ 2) y (by omega),
          bits_congr 2 n 0 (by omega), bits_zero, List.append_assoc]

/-- One byte is two letters, the last with four bits to spare. -/
theorem bits_group_one (x : Nat) :
    bits 6 (x / 4) ++ bits 6 (x % 4 * 16) = bits 8 x ++ List.replicate 4 false := by
  obtain ⟨n, hn⟩ : ∃ n, n = x * 16 := ⟨_, rfl⟩
  calc bits 6 (x / 4) ++ bits 6 (x % 4 * 16)
      = bits 6 (n / 2 ^ 6) ++ bits 6 n := by
        rw [bits_congr 6 (x / 4) (n / 2 ^ 6) (by omega), bits_congr 6 (x % 4 * 16) n (by omega)]
    _ = bits 12 n := by rw [← bits_add]
    _ = bits 8 (n / 2 ^ 4) ++ bits 4 n := by rw [← bits_add]
    _ = bits 8 x ++ List.replicate 4 false := by
        rw [bits_congr 8 (n / 2 ^ 4) x (by omega), bits_congr 4 n 0 (by omega), bits_zero]

/-! ## Main results -/

/-- The bits of a byte string. -/
def bitsOf (b : List UInt8) : List Bool := b.flatMap fun x => bits 8 x.toNat

/-- A text spells a byte string: its letters carry the bits, with fewer than six zeros after them,
and fewer than four `=` make the length a multiple of four. -/
def Spells (s : List Char) (b : List UInt8) : Prop :=
  ∃ (letters : List Nat) (spare fill : Nat), spare < 6 ∧ fill < 4 ∧ (∀ n ∈ letters, n < 64) ∧
    letters.flatMap (bits 6) = bitsOf b ++ List.replicate spare false ∧
    s = letters.map standard ++ List.replicate fill '=' ∧ s.length % 4 = 0

theorem length_encode_mod (b : List UInt8) : (encode b).length % 4 = 0 := by
  match b with
  | [] => rfl
  | [a] =>
    show 4 % 4 = 0
    rfl
  | [a, b] =>
    show 4 % 4 = 0
    rfl
  | a :: b :: c :: rest =>
    show ((encode rest).length + 4) % 4 = 0
    rw [Nat.add_mod_right, length_encode_mod rest]

theorem spells_encode (b : List UInt8) : Spells (encode b) b := by
  have hfour := length_encode_mod b
  match b with
  | [] => exact ⟨[], 0, 0, by decide, by decide, by simp, rfl, rfl, hfour⟩
  | [a] =>
    have ha := a.toNat_lt
    refine ⟨[a.toNat / 4, a.toNat % 4 * 16], 4, 2, by decide, by decide, ?_, ?_, rfl,
      hfour⟩
    · simp only [List.forall_mem_cons]
      exact ⟨by omega, by omega, nofun⟩
    · simp only [bitsOf, List.flatMap_cons, List.flatMap_nil, List.append_nil]
      exact bits_group_one a.toNat
  | [a, b] =>
    have ha := a.toNat_lt
    have hb := b.toNat_lt
    refine ⟨[a.toNat / 4, a.toNat % 4 * 16 + b.toNat / 16, b.toNat % 16 * 4], 2, 1, by decide,
      by decide, ?_, ?_, rfl, hfour⟩
    · simp only [List.forall_mem_cons]
      exact ⟨by omega, by omega, by omega, nofun⟩
    · simp only [bitsOf, List.flatMap_cons, List.flatMap_nil, List.append_nil, List.append_assoc]
      exact bits_group_two a.toNat b.toNat hb
  | a :: b :: c :: rest =>
    have ha := a.toNat_lt
    have hb := b.toNat_lt
    have hc := c.toNat_lt
    obtain ⟨letters, spare, fill, hspare, hfill, hletters, hbits, hs, -⟩ := spells_encode rest
    refine ⟨a.toNat / 4 :: (a.toNat % 4 * 16 + b.toNat / 16) :: (b.toNat % 16 * 4 + c.toNat / 64)
      :: (c.toNat % 64) :: letters, spare, fill, hspare, hfill, ?_, ?_, ?_, hfour⟩
    · simp only [List.forall_mem_cons]
      exact ⟨by omega, by omega, by omega, by omega, hletters⟩
    · have hgroup := bits_group a.toNat b.toNat c.toNat hb hc
      simp only [← List.append_assoc] at hgroup
      simp only [bitsOf, List.flatMap_cons, hbits, ← List.append_assoc] at hgroup ⊢
      rw [hgroup]
    · show standard _ :: standard _ :: standard _ :: standard _ :: encode rest = _
      rw [hs]
      rfl

/-- Length and bits leave no choice. -/
theorem spells_unique (s s' : List Char) (b : List UInt8) (h : Spells s b) (h' : Spells s' b) :
    s = s' := by
  obtain ⟨letters, spare, fill, hspare, hfill, hletters, hbits, hs, hfour⟩ := h
  obtain ⟨letters', spare', fill', hspare', hfill', hletters', hbits', hs', hfour'⟩ := h'
  have hcount := congrArg List.length hbits
  have hcount' := congrArg List.length hbits'
  rw [length_flatMap_bits 6 (fun n => n), List.length_append, List.length_replicate, bitsOf,
    length_flatMap_bits] at hcount hcount'
  have hlength : letters.length = letters'.length := by omega
  obtain rfl : spare = spare' := by omega
  obtain rfl : letters = letters' :=
    flatMap_bits_inj 6 letters letters' hletters hletters' hlength (hbits.trans hbits'.symm)
  rw [hs, List.length_append, List.length_map, List.length_replicate] at hfour
  rw [hs', List.length_append, List.length_map, List.length_replicate] at hfour'
  obtain rfl : fill = fill' := by omega
  exact hs.trans hs'.symm

/-- Each byte string has one written form. -/
theorem spells_iff (s : List Char) (b : List UInt8) : Spells s b ↔ s = encode b :=
  ⟨fun h => spells_unique s (encode b) b h (spells_encode b), fun h => h ▸ spells_encode b⟩

example : (List.range 64).map standard
    = "ABCDEFGHIJKLMNOPQRSTUVWXYZabcdefghijklmnopqrstuvwxyz0123456789+/".toList := by decide

end Federation.Text.Base64
