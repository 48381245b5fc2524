import Federation.Crypto.Der

/-!
# Parts of published data

DER as others wrote it, read with less care for its form: a tag may take several bytes, a length may
be longer than need be, and of a tag often its number alone matters.

    numbered? tag b = some p implies p.rest.length < b.length

A body may also be open: it has no length, and a mark without a body stands after its parts.
-/

namespace Federation.Crypto.Der

/-! ## Heads -/

/-- What stands before the body of a part. -/
structure Head where
  /-- What the number means depends on the place of the part. -/
  context : Bool
  /-- The body is made of parts. -/
  nested : Bool
  number : Nat
  /-- The length of the body; an open body has none. -/
  size? : Option Nat

/-- The number in a tag of one byte. -/
def number (tag : UInt8) : Nat := tag.toNat % 32

/-- Reads a number with seven bits to a byte in at most `n` bytes, after `acc`; its 32 lowest bits
count. -/
def wideNumber? : (n acc : Nat) → Bytes → Option (Nat × Bytes)
  | n + 1, acc, b :: rest =>
    let acc := (128 * acc + b.toNat % 128) % 2 ^ 32
    if b < 0x80 then some (acc, rest) else wideNumber? n acc rest
  | _, _, _ => none

/-- Reads the number of a tag; if the five bits for it are all set, it stands in the next bytes. -/
def number? (tag : UInt8) (b : Bytes) : Option (Nat × Bytes) :=
  if number tag = 31 then wideNumber? 5 0 b else some (number tag, b)

/-- Reads a length below `2 ^ 64`, or the sign that there is none. -/
def size? : Bytes → Option (Option Nat × Bytes)
  | [] => none
  | b :: rest =>
    let width := b.toNat - 0x80
    let digits := rest.take width
    if b < 0x80 then some (some b.toNat, rest)
    else if b = 0x80 then some (none, rest)
    else if b = 0xFF ∨ digits.length < width ∨ 2 ^ 64 ≤ Bytes.toNat digits then none
    else some (some (Bytes.toNat digits), rest.drop width)

/-- Reads a head; only a body that is made of parts may be open. -/
def head? : Bytes → Option (Head × Bytes)
  | [] => none
  | tag :: b => do
    let (number, b) ← number? tag b
    let (size?, b) ← size? b
    let nested := tag &&& 0x20 != 0
    if size? = none ∧ !nested then none
    else some (⟨tag &&& 0xC0 == 0x80, nested, number, size?⟩, b)

/-- Reads the head of a part that is not open. -/
def closedHead? (b : Bytes) : Option (Head × Bytes) :=
  (head? b).filter fun (head, _) => head.size?.isSome

/-! ## Parts -/

/-- A part that is not open, and the bytes after it. -/
structure Part extends Head where
  body : Bytes
  rest : Bytes

namespace Part

def read? (b : Bytes) : Option Part := do
  let (head, b) ← head? b
  let size ← head.size?
  if b.length < size then none
  else some { toHead := head, body := b.take size, rest := b.drop size }

/-- A part with the number of a tag, whatever else its tag says. -/
def numbered? (tag : UInt8) (b : Bytes) : Option Part :=
  (read? b).filter fun p => p.number = Der.number tag

/-- The part, if its body is not made of parts. -/
def simple? (p : Part) : Option Part := if p.nested then none else some p

/-- The bits of a bit string in whole bytes, if the count of unused ones is right. -/
def bits? (p : Part) : Option Bytes := do
  let unused :: bits := (← p.simple?).body | none
  match bits.getLast? with
  | none => if unused = 0 then some [] else none
  | some last => if unused ≤ 8 ∧ last.toNat % 2 ^ unused.toNat = 0 then some bits else none

end Part

/-! ## Lemmas -/

theorem wideNumber?_length {n acc : Nat} {b : Bytes} {m : Nat} {rest : Bytes}
    (h : wideNumber? n acc b = some (m, rest)) : rest.length < b.length := by
  induction b generalizing n acc with
  | nil => cases n <;> simp [wideNumber?] at h
  | cons x b ih =>
    cases n with
    | zero => simp [wideNumber?] at h
    | succ n =>
      simp only [wideNumber?] at h
      split at h
      · simp only [Option.some.injEq, Prod.mk.injEq] at h
        simp [← h.2]
      · have := ih h
        simp only [List.length_cons]
        omega

theorem number?_length {tag : UInt8} {b : Bytes} {m : Nat} {rest : Bytes}
    (h : number? tag b = some (m, rest)) : rest.length ≤ b.length := by
  unfold number? at h
  split at h
  · exact Nat.le_of_lt (wideNumber?_length h)
  · simp only [Option.some.injEq, Prod.mk.injEq] at h
    simp [← h.2]

theorem size?_length {b : Bytes} {n : Option Nat} {rest : Bytes}
    (h : size? b = some (n, rest)) : rest.length < b.length := by
  cases b with
  | nil => simp [size?] at h
  | cons x b =>
    simp only [size?] at h
    split at h
    · simp only [Option.some.injEq, Prod.mk.injEq] at h
      simp [← h.2]
    · split at h
      · simp only [Option.some.injEq, Prod.mk.injEq] at h
        simp [← h.2]
      · split at h
        · simp at h
        · simp only [Option.some.injEq, Prod.mk.injEq] at h
          simp only [← h.2, List.length_drop, List.length_cons]
          omega

/-- A head takes two bytes or more. -/
theorem head?_length {b : Bytes} {head : Head} {rest : Bytes}
    (h : head? b = some (head, rest)) : rest.length < b.length := by
  cases b with
  | nil => simp [head?] at h
  | cons tag b =>
    simp only [head?, Option.bind_eq_bind, Option.bind_eq_some_iff, Prod.exists] at h
    obtain ⟨m, b₁, h₁, n, b₂, h₂, h₃⟩ := h
    have := number?_length h₁
    have := size?_length h₂
    split at h₃
    · simp at h₃
    · simp only [Option.some.injEq, Prod.mk.injEq] at h₃
      simp only [← h₃.2, List.length_cons]
      omega

theorem Part.read?_length {b : Bytes} {p : Part} (h : Part.read? b = some p) :
    p.rest.length < b.length := by
  simp only [Part.read?, Option.bind_eq_bind, Option.bind_eq_some_iff, Prod.exists] at h
  obtain ⟨head, b₁, h₁, size, _, h₂⟩ := h
  have := head?_length h₁
  split at h₂
  · simp at h₂
  · simp only [Option.some.injEq] at h₂
    simp only [← h₂, List.length_drop]
    omega

theorem Part.numbered?_length {tag : UInt8} {b : Bytes} {p : Part}
    (h : Part.numbered? tag b = some p) : p.rest.length < b.length :=
  Part.read?_length (Option.filter_eq_some_iff.1 h).1

/-! ## All parts of a body -/

/-- The parts of a body up to its end. -/
def parts? (b : Bytes) : Option (List Part) :=
  if b.isEmpty then some []
  else
    match h : Part.read? b with
    | none => none
    | some p =>
      have : p.rest.length < b.length := Part.read?_length h
      (parts? p.rest).map (p :: ·)
termination_by b.length

/-- The greatest number of open bodies around a part, and one more. -/
def openLimit : Nat := 50

/-- The bytes after the marks of `opened` open bodies, each within the one before. -/
def afterOpen? (opened : Nat) (b : Bytes) : Option Bytes :=
  match opened with
  | 0 => some b
  | opened + 1 =>
    match h : head? b with
    | none => none
    | some (head, more) =>
      have := head?_length h
      if openLimit ≤ opened + 1 then none
      else
        match head.size? with
        | none => afterOpen? (opened + 2) more
        | some size =>
          if size = 0 ∧ head.number = 0 then afterOpen? opened more
          else if more.length < size then none
          else afterOpen? (opened + 1) (more.drop size)
termination_by b.length
decreasing_by all_goals grind

/-- The bytes after a part that may be open, if it has the number of a tag. -/
def after? (tag : UInt8) (b : Bytes) : Option Bytes := do
  let (head, b) ← head? b
  if head.number ≠ number tag then none
  else
    match head.size? with
    | none => afterOpen? 1 b
    | some size => if b.length < size then none else some (b.drop size)

end Federation.Crypto.Der
