import Federation.Bytes

/-!
# Padding of messages

The digests here all cut a message into blocks of sixteen words. Before that a one bit, zeros and
the length of the message in bits are put after it, so that whole blocks come out and no two
messages give the same blocks.
-/

namespace Federation.Crypto.Digest

/-- The number of zeros that fill up a message of `n` bytes, where a word has `word` bytes and the
length takes two words. -/
def zeros (word n : Nat) : Nat := (16 * word - (n + 1 + 2 * word) % (16 * word)) % (16 * word)

/-- A message with its padding. -/
def pad (word : Nat) (message : Bytes) : Bytes :=
  message ++ 0x80 :: List.replicate (zeros word message.length) 0
    ++ Bytes.ofNat (2 * word) (8 * message.length)

/-- The words of each block of a padded message. -/
def words (word : Nat) (message : Bytes) : List (List Nat) :=
  (Bytes.blocks (16 * word) (pad word message)).map fun block =>
    (Bytes.blocks word block).map Bytes.toNat

theorem length_pad (word : Nat) (message : Bytes) (h : 0 < word) :
    (pad word message).length % (16 * word) = 0 := by
  simp only [pad, zeros, List.length_append, List.length_cons, List.length_replicate,
    Bytes.length_ofNat]
  generalize message.length = n
  generalize hm : 16 * word = m
  have hm0 : 0 < m := by omega
  have hr : (n + 1 + 2 * word) % m < m := Nat.mod_lt _ hm0
  have hd := Nat.div_add_mod (n + 1 + 2 * word) m
  generalize (n + 1 + 2 * word) % m = r at *
  generalize hq : (n + 1 + 2 * word) / m = q at *
  by_cases h0 : r = 0
  · subst h0
    have : n + ((m - 0) % m + 1) + 2 * word = m * q := by simp; omega
    rw [this, Nat.mul_mod_right]
  · have : n + ((m - r) % m + 1) + 2 * word = m * (q + 1) := by
      rw [Nat.mod_eq_of_lt (by omega), Nat.mul_succ]; omega
    rw [this, Nat.mul_mod_right]

end Federation.Crypto.Digest
