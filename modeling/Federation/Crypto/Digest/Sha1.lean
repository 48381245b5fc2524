import Federation.Crypto.Digest.Padding

/-!
# SHA-1

Kept for one use: the mask and the label of the older form of RSA-OAEP, where its weakness against
collisions plays no part.
-/

namespace Federation.Crypto.Digest.Sha1

/-! ## Algorithm -/

abbrev Word := BitVec 32

structure State where
  a : Word
  b : Word
  c : Word
  d : Word
  e : Word

def start : State := ⟨0x67452301, 0xEFCDAB89, 0x98BADCFE, 0x10325476, 0xC3D2E1F0⟩

def State.toList (s : State) : List Word := [s.a, s.b, s.c, s.d, s.e]

/-- The next `n` words of the schedule, given the last sixteen. -/
def schedule : Nat → List Word → List Word
  | 0, _ => []
  | _ + 1, [] => []
  | n + 1, x :: rest =>
    let next := (rest.getD 12 0 ^^^ rest.getD 7 0 ^^^ rest.getD 1 0 ^^^ x).rotateLeft 1
    x :: schedule n (rest ++ [next])

/-- The function and the constant of the `t`-th word. -/
def mix (t : Nat) (b c d : Word) : Word :=
  if t < 20 then ((b &&& c) ||| (~~~ b &&& d)) + 0x5A827999
  else if t < 40 then (b ^^^ c ^^^ d) + 0x6ED9EBA1
  else if t < 60 then ((b &&& c) ||| (b &&& d) ||| (c &&& d)) + 0x8F1BBCDC
  else (b ^^^ c ^^^ d) + 0xCA62C1D6

def round (s : State) (x : Word × Nat) : State :=
  { a := s.a.rotateLeft 5 + mix x.2 s.b s.c s.d + s.e + x.1, b := s.a, c := s.b.rotateLeft 30
    d := s.c, e := s.d }

def block (s : State) (x : List Nat) : State :=
  let t := (schedule 80 (x.map (BitVec.ofNat 32))).zipIdx.foldl round s
  ⟨s.a + t.a, s.b + t.b, s.c + t.c, s.d + t.d, s.e + t.e⟩

end Sha1

def sha1 (message : Bytes) : Bytes :=
  ((words 4 message).foldl Sha1.block Sha1.start).toList.flatMap fun x => Bytes.ofNat 4 x.toNat

@[simp] theorem length_sha1 (message : Bytes) : (sha1 message).length = 20 := by
  simp [sha1, Sha1.State.toList]

end Federation.Crypto.Digest
