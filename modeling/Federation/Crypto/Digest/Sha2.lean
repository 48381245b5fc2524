import Federation.Crypto.Digest.Padding

/-!
# The SHA-2 family

SHA-256, SHA-384 and SHA-512 are one algorithm over words of 32 or 64 bits. Its constants are the
first bits after the point of square and cube roots of small primes, and are computed so here.

    (root k n bits) ^ k ≤ n
-/

namespace Federation.Crypto.Digest.Sha2

/-! ## Constants -/

/-- Adds to `r` the powers of two below `2 ^ bits` that keep its `k`-th power at most `n`. -/
def rootFrom (k n r : Nat) : Nat → Nat
  | 0 => r
  | b + 1 => rootFrom k n (if (r + 2 ^ b) ^ k ≤ n then r + 2 ^ b else r) b

/-- The greatest number below `2 ^ bits` whose `k`-th power is at most `n`. -/
def root (k n bits : Nat) : Nat := rootFrom k n 0 bits

def isPrime (n : Nat) : Bool := 2 ≤ n && (List.range n).all fun d => d < 2 || n % d != 0

/-- The first eighty primes. -/
def primes : List Nat := (List.range 410).filter isPrime

/-- The first `w` bits after the point of the `k`-th root of `p`. -/
def fraction (k w p : Nat) : BitVec w := BitVec.ofNat w (root k (p * 2 ^ (k * w)) (w + 8))

/-! ## Algorithm -/

/-- The eight words that blocks are mixed into. -/
structure State (w : Nat) where
  a : BitVec w
  b : BitVec w
  c : BitVec w
  d : BitVec w
  e : BitVec w
  f : BitVec w
  g : BitVec w
  h : BitVec w

namespace State

variable {w : Nat}

def ofList (x : List (BitVec w)) : State w :=
  ⟨x.getD 0 0, x.getD 1 0, x.getD 2 0, x.getD 3 0, x.getD 4 0, x.getD 5 0, x.getD 6 0, x.getD 7 0⟩

def toList (s : State w) : List (BitVec w) := [s.a, s.b, s.c, s.d, s.e, s.f, s.g, s.h]

def add (s t : State w) : State w := ofList (s.toList.zipWith (· + ·) t.toList)

end State

/-- What tells the members with words of one width apart from those of another. -/
structure Family (w : Nat) where
  constants : List (BitVec w)
  /-- Three rotations each. -/
  outer : (Nat × Nat × Nat) × (Nat × Nat × Nat)
  /-- Two rotations and a shift each. -/
  inner : (Nat × Nat × Nat) × (Nat × Nat × Nat)

variable {w : Nat}

def rotations (r : Nat × Nat × Nat) (x : BitVec w) : BitVec w :=
  x.rotateRight r.1 ^^^ x.rotateRight r.2.1 ^^^ x.rotateRight r.2.2

def rotationsAndShift (r : Nat × Nat × Nat) (x : BitVec w) : BitVec w :=
  x.rotateRight r.1 ^^^ x.rotateRight r.2.1 ^^^ (x >>> r.2.2)

namespace Family

variable (v : Family w)

/-- The next `n` words of the schedule, given the last sixteen. -/
def schedule : Nat → List (BitVec w) → List (BitVec w)
  | 0, _ => []
  | _ + 1, [] => []
  | n + 1, x :: rest =>
    let next := rotationsAndShift v.inner.2 (rest.getD 13 0) + rest.getD 8 0
      + rotationsAndShift v.inner.1 (rest.getD 0 0) + x
    x :: schedule n (rest ++ [next])

/-- Mixes in one word of the schedule with its constant. -/
def round (s : State w) (x : BitVec w × BitVec w) : State w :=
  let choice := (s.e &&& s.f) ^^^ (~~~ s.e &&& s.g)
  let majority := (s.a &&& s.b) ^^^ (s.a &&& s.c) ^^^ (s.b &&& s.c)
  let t := s.h + rotations v.outer.2 s.e + choice + x.1 + x.2
  { a := t + rotations v.outer.1 s.a + majority, b := s.a, c := s.b, d := s.c
    e := s.d + t, f := s.e, g := s.f, h := s.g }

/-- Mixes in one block of sixteen words. -/
def block (s : State w) (x : List Nat) : State w :=
  let scheduled := v.schedule v.constants.length (x.map (BitVec.ofNat w))
  s.add ((v.constants.zip scheduled).foldl v.round s)

/-- The digest with the given start, before it is cut. -/
def digest (start : State w) (message : Bytes) : Bytes :=
  ((words (w / 8) message).foldl v.block start).toList.flatMap fun x => Bytes.ofNat (w / 8) x.toNat

theorem length_digest (start : State w) (message : Bytes) :
    (v.digest start message).length = 8 * (w / 8) := by
  simp [digest, State.toList]
  omega

end Family

/-! ## Members -/

def family32 : Family 32 where
  constants := (primes.take 64).map (fraction 3 32)
  outer := ((2, 13, 22), (6, 11, 25))
  inner := ((7, 18, 3), (17, 19, 10))

def family64 : Family 64 where
  constants := primes.map (fraction 3 64)
  outer := ((28, 34, 39), (14, 18, 41))
  inner := ((1, 8, 7), (19, 61, 6))

def start256 : State 32 := .ofList ((primes.take 8).map (fraction 2 32))

def start384 : State 64 := .ofList (((primes.drop 8).take 8).map (fraction 2 64))

def start512 : State 64 := .ofList ((primes.take 8).map (fraction 2 64))

def sha256 (message : Bytes) : Bytes := family32.digest start256 message

def sha384 (message : Bytes) : Bytes := (family64.digest start384 message).take 48

def sha512 (message : Bytes) : Bytes := family64.digest start512 message

end Federation.Crypto.Digest.Sha2
