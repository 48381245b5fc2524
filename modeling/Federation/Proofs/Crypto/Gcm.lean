import Federation.Crypto.Cipher.Gcm
import Federation.Proofs.Bytes

/-!
# Decrypting in Galois/Counter mode

What is encrypted under a key of sixteen or thirty-two bytes is decrypted under it.

    Aes.encryptWith keys b has the length of b
    combine keys nonce (combine keys nonce text) = text
    decrypt key nonce (encrypt key nonce text) = some text

Counter mode combines the text with a key stream, which is as long as the text because the cipher
keeps the length of a block. Doing so twice gives the text back.
-/

namespace Federation.Crypto

namespace Aes

/-! ## Lengths of blocks -/

theorem length_mixColumn (b : Bytes) : (mixColumn b).length = b.length := by
  unfold mixColumn
  split <;> rfl

theorem length_mixColumns (b : Bytes) : (mixColumns b).length = b.length := by
  have hcolumns : (Bytes.blocks 4 b).map (fun c => (mixColumn c).length)
      = (Bytes.blocks 4 b).map List.length :=
    List.map_congr_left fun c _ => length_mixColumn c
  unfold mixColumns
  rw [List.length_flatMap, hcolumns, ← List.length_flatten, Bytes.flatten_blocks]

theorem length_shiftRows (b : Bytes) : (shiftRows b).length = 16 := by
  unfold shiftRows
  rw [List.length_map, List.length_range]

theorem length_rounds (keys : List Bytes) (hkeys : ∀ k ∈ keys, k.length = 16) (b : Bytes)
    (hb : b.length = 16) : (rounds b keys).length = 16 := by
  fun_induction rounds b keys with
  | case1 b => exact hb
  | case2 b key =>
    rw [Bytes.length_xor, length_shiftRows, hkeys key List.mem_cons_self]
    rfl
  | case3 b key rest _ ih =>
    refine ih (fun k hk => hkeys k (List.mem_cons_of_mem _ hk)) ?_
    rw [Bytes.length_xor, length_mixColumns, length_shiftRows, hkeys key List.mem_cons_self]
    rfl

/-- A block and its image have the same length. -/
theorem length_encryptWith (keys : List Bytes) (hkeys : ∀ k ∈ keys, k.length = 16) (b : Bytes)
    (hb : b.length = 16) : (encryptWith keys b).length = 16 := by
  unfold encryptWith
  cases keys with
  | nil => exact hb
  | cons key rest =>
    refine length_rounds rest (fun k hk => hkeys k (List.mem_cons_of_mem _ hk)) _ ?_
    rw [Bytes.length_xor, hb, hkeys key List.mem_cons_self]
    rfl

/-! ## Lengths of round keys -/

theorem length_core (constant : UInt8) (b : Bytes) : (core constant b).length = b.length := by
  unfold core
  split
  · simp only [List.length_cons]
  · rfl

/-- A group of words that are four bytes long each. -/
def Group (size : Nat) (words : List Bytes) : Prop :=
  words.length = size ∧ ∀ w ∈ words, w.length = 4

theorem group_chain (size i : Nat) (before : Bytes) (hbefore : before.length = 4)
    (words : List Bytes) (n : Nat) (h : Group n words) :
    Group n (chain size i before words) := by
  induction words generalizing i before n with
  | nil => exact h
  | cons w rest ih =>
    obtain ⟨hlength, hwords⟩ := h
    have hbefore' : (if size = 8 ∧ i = 4 then before.map sub else before).length = 4 := by
      split
      · rw [List.length_map, hbefore]
      · exact hbefore
    have hw : (Bytes.xor w (if size = 8 ∧ i = 4 then before.map sub else before)).length = 4 := by
      rw [Bytes.length_xor, hwords w List.mem_cons_self, hbefore']
      rfl
    obtain ⟨hrest, hrestWords⟩ :=
      ih (i + 1) _ hw rest.length ⟨rfl, fun v hv => hwords v (List.mem_cons_of_mem _ hv)⟩
    constructor
    · rw [← hlength]
      exact congrArg (· + 1) hrest
    · intro v hv
      rcases List.mem_cons.1 hv with rfl | hv
      · exact hw
      · exact hrestWords v hv

theorem group_groups (size : Nat) (hsize : 0 < size) (n : Nat) (constant : UInt8)
    (words : List Bytes) (h : Group size words) :
    Group (n * size) (groups size n constant words) := by
  induction n generalizing constant words with
  | zero => exact ⟨(Nat.zero_mul _).symm, fun w hw => by cases hw⟩
  | succ n ih =>
    have hlast : words.getLastD [] ∈ words := by
      have hne : words ≠ [] := by
        rintro rfl
        exact Nat.ne_of_gt hsize h.1.symm
      rw [List.getLastD_eq_getLast?, List.getLast?_eq_some_getLast hne]
      exact List.getLast_mem hne
    have hcore : (core constant (words.getLastD [])).length = 4 := by
      rw [length_core, h.2 _ hlast]
    obtain ⟨hlength, hwords⟩ := ih (double constant) _ (group_chain size 0 _ hcore words size h)
    constructor
    · show (words ++ groups size n _ _).length = _
      rw [List.length_append, h.1, hlength, Nat.succ_mul, Nat.add_comm]
    · intro w hw
      rcases List.mem_append.1 hw with hw | hw
      · exact h.2 w hw
      · exact hwords w hw

/-- Every round key is a block. -/
theorem length_of_mem_roundKeys (key : Bytes) (h : key.length = 16 ∨ key.length = 32) :
    ∀ k ∈ roundKeys key, k.length = 16 := by
  have hmod : key.length % 4 = 0 := by omega
  obtain ⟨hlength, hwords⟩ := group_groups (key.length / 4) (by omega) 11 1 (Bytes.blocks 4 key)
    ⟨Bytes.length_blocks 4 (by decide) key hmod,
      Bytes.length_of_mem_blocks 4 (by decide) key hmod⟩
  intro k hk
  obtain ⟨words, hmem, rfl⟩ := List.mem_map.1 hk
  have hfour : words.length = 4 := by
    refine Bytes.length_of_mem_blocks 4 (by decide) _ ?_ words hmem
    rw [List.length_take, hlength]
    omega
  have hfour' : ∀ w ∈ words, w.length = 4 := by
    intro w hw
    have hw : w ∈ (Bytes.blocks 4 _).flatten := List.mem_flatten_of_mem hmem hw
    rw [Bytes.flatten_blocks] at hw
    exact hwords w (List.mem_of_mem_take hw)
  rw [List.length_flatten, List.map_eq_replicate_iff.2 hfour', hfour]
  rfl

end Aes

namespace Gcm

/-! ## Key stream -/

/-- Blocks combined with a stream, from its block `i` on. -/
def combineFrom (stream : Nat → Bytes) (i : Nat) (blocks : List Bytes) : Bytes :=
  (blocks.zipIdx i).flatMap fun (block, j) => Bytes.xor block (stream j)

theorem combineFrom_cons (stream : Nat → Bytes) (i : Nat) (b : Bytes) (rest : List Bytes) :
    combineFrom stream i (b :: rest)
      = Bytes.xor b (stream i) ++ combineFrom stream (i + 1) rest := by
  unfold combineFrom
  rw [List.zipIdx_cons, List.flatMap_cons]

/-- Combined twice, a text is as before. -/
theorem combineFrom_combineFrom (stream : Nat → Bytes) (hstream : ∀ j, (stream j).length = 16)
    (text : Bytes) (i : Nat) :
    combineFrom stream i (Bytes.blocks 16 (combineFrom stream i (Bytes.blocks 16 text)))
      = text := by
  fun_induction Bytes.blocks 16 text generalizing i with
  | case1 =>
    show combineFrom stream i (Bytes.blocks 16 []) = []
    rw [Bytes.blocks_nil]
    rfl
  | case2 x s ih =>
    have hle : (x :: s.take 15).length ≤ (stream i).length := by
      rw [hstream, List.length_cons, List.length_take]
      omega
    have hlength : (Bytes.xor (x :: s.take 15) (stream i)).length = (s.take 15).length + 1 := by
      rw [Bytes.length_xor, Nat.min_eq_left hle, List.length_cons]
    rw [combineFrom_cons, Bytes.blocks_append, combineFrom_cons, Bytes.xor_xor _ _ hle, ih,
      List.cons_append, List.take_append_drop]
    · intro h
      rw [h] at hlength
      cases hlength
    · rw [hlength, List.length_take]
      by_cases hlong : 15 ≤ s.length
      · exact Or.inl (by omega)
      · refine Or.inr ⟨by omega, ?_⟩
        rw [List.drop_of_length_le (by omega), Bytes.blocks_nil]
        rfl

/-! ## Main result -/

section
variable (key nonce : Bytes) (hkey : key.length = 16 ∨ key.length = 32)
  (hnonce : nonce.length = nonceSize)
include hkey hnonce

theorem length_stream (i : Nat) :
    (Aes.encryptWith (Aes.roundKeys key) (counter nonce i)).length = 16 := by
  refine Aes.length_encryptWith _ (Aes.length_of_mem_roundKeys key hkey) _ ?_
  unfold counter
  rw [List.length_append, hnonce, Bytes.length_ofNat]
  rfl

theorem combine_combine (text : Bytes) :
    combine (Aes.roundKeys key) nonce (combine (Aes.roundKeys key) nonce text) = text :=
  combineFrom_combineFrom _ (length_stream key nonce hkey hnonce) text 2

theorem length_tag (text : Bytes) : (tag (Aes.roundKeys key) nonce text).length = tagSize := by
  unfold tag
  rw [Bytes.length_xor, Bytes.length_ofNat, length_stream key nonce hkey hnonce]
  rfl

/-- What was encrypted is decrypted under the same key. -/
theorem decrypt_encrypt (text : Bytes) : decrypt key nonce (encrypt key nonce text) = some text := by
  have htag := length_tag key nonce hkey hnonce (combine (Aes.roundKeys key) nonce text)
  unfold decrypt encrypt
  simp only [List.length_append, htag, Nat.add_sub_cancel, List.take_left, List.drop_left]
  rw [if_pos ⟨Nat.le_add_left .., trivial⟩, combine_combine key nonce hkey hnonce]

end

end Gcm

end Federation.Crypto
