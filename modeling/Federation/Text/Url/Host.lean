import Federation.Bytes
import Federation.Text.Hex
import Federation.Text.Url.Domain

/-!
# Hosts

The host of a URL: a domain in ASCII, or an address of four or sixteen bytes. Percent escapes are
resolved first, and a name whose last label is a number is an address.

- `Host.parse?` reads a host.
- `Host.text` writes it in the one form that URLs show.
-/

namespace Federation.Text

inductive Host
  | domain (name : List Char)
  | v4 (address : Nat)
  /-- Eight groups of sixteen bits. -/
  | v6 (groups : List Nat)
deriving DecidableEq, Repr

namespace Host

/-! ## Escapes -/

/-- Resolves percent escapes; a percent sign without two digits stays. -/
def unescape : Bytes → Bytes
  | 37 :: a :: b :: rest =>
    match Hex.value? (Char.ofNat a.toNat), Hex.value? (Char.ofNat b.toNat) with
    | some x, some y => UInt8.ofNat (16 * x + y) :: unescape rest
    | _, _ => 37 :: unescape (a :: b :: rest)
  | c :: rest => c :: unescape rest
  | [] => []

/-! ## Addresses of four bytes -/

/-- A number in base 10, 16 after `0x`, or 8 after another zero. -/
def number? (s : List Char) : Option Nat :=
  let read (base : Nat) (ds : List Char) : Option Nat :=
    ds.foldlM (fun n c => do
      let d ← Hex.value? c
      if d < base then some (base * n + d) else none) 0
  match s with
  | [] => none
  | ['0'] => some 0
  | '0' :: 'x' :: ds | '0' :: 'X' :: ds => read 16 ds
  | '0' :: ds => read 8 ds
  | ds => read 10 ds

/-- The labels of a name without the empty one that a last point leaves. -/
def labels (name : List Char) : List (List Char) :=
  let parts := splitAt (· == '.') name
  if parts.length > 1 ∧ parts.getLast? = some [] then parts.dropLast else parts

/-- The last label is a number, so the name has to be an address. -/
def endsInNumber (name : List Char) : Bool :=
  match (labels name).getLast? with
  | some label => !label.isEmpty && (label.all Char.isDigit || (number? label).isSome)
  | none => false

def v4? (name : List Char) : Option Nat := do
  let parts ← (labels name).mapM number?
  let last ← parts.getLast?
  let front := parts.dropLast
  if parts.length > 4 ∨ front.any (· > 255) ∨ 256 ^ (4 - front.length) ≤ last then none
  some (front.zipIdx.foldl (fun total (n, i) => total + n * 256 ^ (3 - i)) last)

/-! ## Addresses of sixteen bytes -/

def group? (s : List Char) : Option Nat :=
  if 1 ≤ s.length ∧ s.length ≤ 4 then
    s.foldlM (fun n c => (Hex.value? c).map fun d => 16 * n + d) 0
  else none

/-- The last group may be written as an address of four bytes, for two groups. -/
def lastGroups? (s : List Char) : Option (List Nat) :=
  if s.contains '.' then do
    let parts ← (splitAt (· == '.') s).mapM fun p =>
      if p = ['0'] ∨ p.head? ≠ some '0' ∧ p.all Char.isDigit then number? p else none
    match parts with
    | [a, b, c, d] =>
      if parts.any (· > 255) then none else some [256 * a + b, 256 * c + d]
    | _ => none
  else (group? s).map fun g => [g]

/-- Groups with colons between them; only at the end of an address may there be a point. -/
def groups? (isLast : Bool) (s : List Char) : Option (List Nat) :=
  if s.isEmpty then some []
  else do
    let parts := splitAt (· == ':') s
    let front ← parts.dropLast.mapM group?
    let last ← parts.getLast?
    if isLast then return front ++ (← lastGroups? last)
    return front ++ [← group? last]

/-- The parts before and after the first pair of colons. -/
def cutColons : List Char → Option (List Char × List Char)
  | ':' :: ':' :: rest => some ([], rest)
  | c :: rest => (cutColons rest).map fun (a, b) => (c :: a, b)
  | [] => none

/-- Eight groups; a pair of colons stands for all that are missing, at least one. -/
def v6? (s : List Char) : Option (List Nat) := do
  match cutColons s with
  | some (a, b) =>
    let front ← groups? false a
    let back ← groups? true b
    let missing := 8 - (front.length + back.length)
    if missing = 0 then none else some (front ++ List.replicate missing 0 ++ back)
  | none =>
    let all ← groups? true s
    if all.length = 8 then some all else none

/-- How many zeros a list begins with. -/
def zeros (groups : List Nat) : Nat := (groups.takeWhile (· = 0)).length

/-- Where the first of the longest runs of at least two zeros is, and its length. -/
def longestZeros (groups : List Nat) : Option (Nat × Nat) :=
  (List.range groups.length).foldl (fun best i =>
    let n := zeros (groups.drop i)
    if 2 ≤ n ∧ (best.map (·.2)).getD 0 < n then some (i, n) else best) none

def groupsText (groups : List Nat) : List Char :=
  [':'].intercalate (groups.map (Nat.toDigits 16))

/-! ## Hosts -/

def parse? (s : List Char) : Option Host :=
  match s with
  | '[' :: rest =>
    if rest.getLast? = some ']' then (v6? rest.dropLast).map v6 else none
  | _ => do
    let decoded ← Bytes.text? (unescape (Bytes.ofText (String.ofList s)))
    let name ← Domain.ascii? decoded.toList
    if endsInNumber name then (v4? name).map v4 else some (.domain name)

def text : Host → List Char
  | domain name => name
  | v4 n => ['.'].intercalate
      ([n / 256 ^ 3, n / 256 ^ 2 % 256, n / 256 % 256, n % 256].map (Nat.toDigits 10))
  | v6 groups =>
    '[' :: (match longestZeros groups with
      | some (i, n) => groupsText (groups.take i) ++ [':', ':'] ++ groupsText (groups.drop (i + n))
      | none => groupsText groups) ++ [']']

end Host

end Federation.Text
