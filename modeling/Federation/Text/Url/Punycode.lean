/-!
# Punycode

Labels of host names with letters beyond ASCII, written in ASCII (RFC 3492). The letters beyond
ASCII are counted in, smallest first; each count is the distance to the one before, in digits whose
weights follow the sizes met so far.

    decode? (encode label) = some label, for a label with a letter beyond ASCII
-/

namespace Federation.Text.Punycode

/-! ## Numbers -/

def digit (n : Nat) : Char := if n < 26 then Char.ofNat (97 + n) else Char.ofNat (22 + n)

/-- The weight threshold of the digit at position `k`, which grows by 36. -/
def threshold (k bias : Nat) : Nat := min 26 (max 1 (k - bias))

/-- Divides by 35 while a number is above 455, at most `fuel` times, and counts 36 for each. -/
def damp : Nat → Nat → Nat × Nat
  | 0, delta => (delta, 0)
  | fuel + 1, delta =>
    if delta ≤ 455 then (delta, 0)
    else
      let (d, k) := damp fuel (delta / 35)
      (d, k + 36)

/-- The bias after a distance has been written, as the `count`-th. -/
def adapt (delta count : Nat) (isFirst : Bool) : Nat :=
  let d := if isFirst then delta / 700 else delta / 2
  let (d, k) := damp d (d + d / count)
  k + 36 * d / (d + 38)

/-- A number in digits of falling thresholds; it has no more of them than its size. -/
def digits (bias : Nat) : Nat → Nat → Nat → List Char
  | 0, _, q => [digit q]
  | fuel + 1, k, q =>
    let t := threshold k bias
    if q < t then [digit q]
    else digit (t + (q - t) % (36 - t)) :: digits bias fuel (k + 36) ((q - t) / (36 - t))

/-- The value of a digit. -/
def value? (c : Char) : Option Nat :=
  let n := c.toLower.toNat
  if 97 ≤ n && n ≤ 122 then some (n - 97)
  else if 48 ≤ n && n ≤ 57 then some (n - 22)
  else none

/-- Reads a number whose next digit, at position `k`, has the given weight, after `acc`. -/
def number? (bias : Nat) : (weight k acc : Nat) → List Char → Option (Nat × List Char)
  | _, _, _, [] => none
  | weight, k, acc, c :: rest => do
    let d ← value? c
    let t := threshold k bias
    let acc := acc + d * weight
    if d < t then some (acc, rest) else number? bias (weight * (36 - t)) (k + 36) acc rest

/-! ## Encoding -/

/-- How far the encoding of a label is. -/
structure Progress where
  output : List Char
  delta : Nat := 0
  bias : Nat := 72
  /-- How many letters are written. -/
  written : Nat

/-- Passes one letter of the label while the letter of code `n` is being counted in. -/
def Progress.pass (basic n : Nat) (p : Progress) (c : Char) : Progress :=
  if c.toNat < n then { p with delta := p.delta + 1 }
  else if c.toNat = n then
    { output := p.output ++ digits p.bias p.delta 36 p.delta
      delta := 0
      bias := adapt p.delta (p.written + 1) (p.written = basic)
      written := p.written + 1 }
  else p

/-- Counts in the letters of ascending codes; `last` is the code before them. -/
def countIn (label : List Char) (basic : Nat) : List Nat → Nat → Progress → Progress
  | [], _, p => p
  | n :: rest, last, p =>
    let p := { p with delta := p.delta + (n - last) * (p.written + 1) }
    let p := label.foldl (Progress.pass basic n) p
    countIn label basic rest (n + 1) { p with delta := p.delta + 1 }

/-- The code points of a list in ascending order, each once. -/
def ascending (codes : List Nat) : List Nat := (codes.mergeSort (· ≤ ·)).eraseReps

/-- A label in ASCII, without the mark that tells it from others. -/
def encode (label : List Char) : List Char :=
  let basic := label.filter (·.toNat < 128)
  let others := ascending ((label.map Char.toNat).filter (128 ≤ ·))
  let start := if basic.isEmpty then [] else basic ++ ['-']
  (countIn label basic.length others 128 { output := start, written := basic.length }).output

/-! ## Decoding -/

theorem number?_length {bias weight k acc n : Nat} {digits rest : List Char}
    (h : number? bias weight k acc digits = some (n, rest)) : rest.length < digits.length := by
  induction digits generalizing weight k acc with
  | nil => simp [number?] at h
  | cons c digits ih =>
    simp only [number?, Option.bind_eq_bind, Option.bind_eq_some_iff] at h
    obtain ⟨d, _, h⟩ := h
    split at h
    · simp only [Option.some.injEq, Prod.mk.injEq] at h
      simp [← h.2]
    · have := ih h
      simp only [List.length_cons]
      omega

/-- Counts letters into a label; `place` is where the next one stands if its distance is zero, and
`n` is its code then. -/
def countOut (bias place n : Nat) (label digits : List Char) : Option (List Char) :=
  if digits.isEmpty then some label
  else
    match h : number? bias 1 36 0 digits with
    | none => none
    | some (delta, rest) =>
      have := number?_length h
      let count := label.length + 1
      let code := n + (place + delta) / count
      let i := (place + delta) % count
      if code.isValidChar then
        countOut (adapt delta count (place = 0)) (i + 1) code
          (label.take i ++ Char.ofNat code :: label.drop i) rest
      else none
termination_by digits.length

/-- The label of a text in ASCII. What stands before the last hyphen is of ASCII itself. -/
def decode? (s : List Char) : Option (List Char) :=
  let digits := (s.reverse.takeWhile (· ≠ '-')).reverse
  let basic := (s.take (s.length - digits.length)).dropLast
  if basic.isEmpty ∧ s.contains '-' then none else countOut 72 0 128 basic digits

end Federation.Text.Punycode
