import Federation.Crypto.Digest

/-!
# Random values

Fresh values are arguments here, so every operation is a function of them: a `Random` holds an
endless supply of bytes for each purpose, and a call takes the ones it needs. Two calls that must
not share values are given two supplies.

    (r.bytes p n).length = n
-/

namespace Federation.Crypto

/-- What a random value is for. -/
inductive Purpose
  | responseId
  | assertionId
  | dataId
  | keyId
  | sessionKey
  | nonce
  | wrapping
  /-- The session key that stands in for one that cannot be unwrapped. -/
  | substitute
  | firstPrime
  | secondPrime
  | scalar
deriving DecidableEq, Repr

/-- A supply of random bytes for each purpose. -/
structure Random where
  draw : Purpose → Nat → UInt8

namespace Random

/-- The first `n` bytes for a purpose. -/
def bytes (r : Random) (p : Purpose) (n : Nat) : Bytes := (List.range n).map (r.draw p)

def alphanumerics : List Char :=
  "ABCDEFGHIJKLMNOPQRSTUVWXYZabcdefghijklmnopqrstuvwxyz0123456789".toList

/-- An identifier that XML admits: an underscore, since it must not begin with a digit, and forty
letters and digits. -/
def xmlId (r : Random) (p : Purpose) : String :=
  String.ofList ('_' :: (r.bytes p 40).map fun b => alphanumerics.getD (b.toNat % 62) 'A')

/-- The form of such an identifier. -/
def isXmlId (id : String) : Bool :=
  match id.toList with
  | '_' :: rest => rest.length == 40 && rest.all alphanumerics.contains
  | _ => false

/-- Stretches a seed into a supply for each purpose. -/
def ofSeed (seed : Bytes) : Random where
  draw p i :=
    let block := DigestAlgorithm.sha256.digest
      (seed ++ UInt8.ofNat p.ctorIdx :: Bytes.ofNat 8 (i / 32))
    block.getD (i % 32) 0

@[simp] theorem length_bytes (r : Random) (p : Purpose) (n : Nat) : (r.bytes p n).length = n := by
  simp [bytes]

theorem isXmlId_xmlId (r : Random) (p : Purpose) : isXmlId (r.xmlId p) = true := by
  have h : ∀ n < 62, alphanumerics.contains (alphanumerics.getD n 'A') := by decide
  simp only [isXmlId, xmlId, String.toList_ofList, List.length_map, length_bytes, List.all_map,
    List.all_eq_true, Bool.and_eq_true]
  exact ⟨by decide, fun b _ => h _ (Nat.mod_lt _ (by decide))⟩

end Random

end Federation.Crypto
