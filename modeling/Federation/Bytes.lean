import Federation.Powers

/-!
# Byte strings

Byte strings as lists, with the three readings that cryptography needs of them: a text in UTF-8, an
unsigned number with the most significant byte first, and a sequence of blocks.

    ofNat w n has w bytes, and toNat (ofNat w n) = n modulo 256 ^ w
-/

namespace Federation

/-- A string of bytes. -/
abbrev Bytes := List UInt8

namespace Bytes

/-! ## Algorithm -/

/-- The UTF-8 form of a text. -/
def ofText (s : String) : Bytes := s.toUTF8.toList

/-- Reads UTF-8. -/
def text? (b : Bytes) : Option String := String.fromUTF8? ⟨b.toArray⟩

/-- The number that bytes write, after `acc`. -/
def toNatFrom (acc : Nat) (b : Bytes) : Nat := b.foldl (fun n x => 256 * n + x.toNat) acc

/-- The unsigned number whose most significant byte comes first. -/
def toNat (b : Bytes) : Nat := toNatFrom 0 b

/-- The last `w` bytes of the number `n`. -/
def ofNat : Nat → Nat → Bytes
  | 0, _ => []
  | w + 1, n => ofNat w (n / 256) ++ [UInt8.ofNat (n % 256)]

/-- The number of bytes that `n` takes; zero takes none. -/
def widthOf (n : Nat) : Nat := if n = 0 then 0 else n.log2 / 8 + 1

/-- The bytes of two strings combined pair by pair; the longer one is cut. -/
def xor (a b : Bytes) : Bytes := a.zipWith (· ^^^ ·) b

/-- Cuts a list into blocks of `n`, at least one; the last block may be shorter. -/
def blocks {α : Type} (n : Nat) : List α → List (List α)
  | [] => []
  | x :: s => (x :: s.take (n - 1)) :: blocks n (s.drop (n - 1))
termination_by s => s.length
decreasing_by simp only [List.length_drop, List.length_cons]; omega

/-! ## Lemmas -/

@[simp] theorem length_ofNat (w n : Nat) : (ofNat w n).length = w := by
  induction w generalizing n with
  | zero => rfl
  | succ w ih => simp [ofNat, ih]

theorem toNatFrom_append (acc : Nat) (a b : Bytes) :
    toNatFrom acc (a ++ b) = toNatFrom (toNatFrom acc a) b := by
  simp [toNatFrom]

theorem toNat_ofNat (w n : Nat) : toNat (ofNat w n) = n % 256 ^ w := by
  induction w generalizing n with
  | zero => simp [ofNat, toNat, toNatFrom, Nat.mod_one]
  | succ w ih =>
    have hb : (UInt8.ofNat (n % 256)).toNat = n % 256 := by simp
    simp only [toNat] at ih
    simp only [ofNat, toNat, toNatFrom_append, ih]
    simp only [toNatFrom, List.foldl_cons, List.foldl_nil, hb]
    rw [Nat.pow_succ, Nat.mul_comm (256 ^ w) 256, Nat.mod_mul]
    omega

end Bytes

end Federation
