import Federation.Crypto.Modular
import Federation.Bytes

/-!
# Elliptic curves

The curves P-256 and P-384 over prime fields, `y² = x³ - 3x + b`, with points in Jacobian
coordinates: `(x, y, z)` stands for `(x / z², y / z³)`, so adding needs no division.

    every point that is read lies on the curve
-/

namespace Federation.Crypto

/-- A curve with its base point. -/
structure Curve where
  /-- The prime of the field. -/
  field : Nat
  b : Nat
  /-- The number of points, a prime. -/
  order : Nat
  baseX : Nat
  baseY : Nat
  /-- The length of a number of the field in bytes. -/
  size : Nat
deriving DecidableEq, Repr

namespace Curve

def p256 : Curve where
  field := 0xFFFFFFFF00000001000000000000000000000000FFFFFFFFFFFFFFFFFFFFFFFF
  b := 0x5AC635D8AA3A93E7B3EBBD55769886BC651D06B0CC53B0F63BCE3C3E27D2604B
  order := 0xFFFFFFFF00000000FFFFFFFFFFFFFFFFBCE6FAADA7179E84F3B9CAC2FC632551
  baseX := 0x6B17D1F2E12C4247F8BCE6E563A440F277037D812DEB33A0F4A13945D898C296
  baseY := 0x4FE342E2FE1A7F9B8EE7EB4A7C0F9E162BCE33576B315ECECBB6406837BF51F5
  size := 32

def p384 : Curve where
  field := 0xFFFFFFFFFFFFFFFFFFFFFFFFFFFFFFFFFFFFFFFFFFFFFFFFFFFFFFFFFFFFFFFEFFFFFFFF0000000000000000FFFFFFFF
  b := 0xB3312FA7E23EE7E4988E056BE3F82D19181D9C6EFE8141120314088F5013875AC656398D8A2ED19D2A85C8EDD3EC2AEF
  order := 0xFFFFFFFFFFFFFFFFFFFFFFFFFFFFFFFFFFFFFFFFFFFFFFFFC7634D81F4372DDF581A0DB248B0A77AECEC196ACCC52973
  baseX := 0xAA87CA22BE8B05378EB1C71EF320AD746E1D3B628BA79B9859F741E082542A385502F25DBF55296C3A545E3872760AB7
  baseY := 0x3617DE4A96262C6F5D9E98BF9292DC29F8F41DBD289A147CE9DA3113B5F0B8C00A60B1CE1D7E819D7A431D7C90EA0E5F
  size := 48

/-! ## Points -/

/-- A point in Jacobian coordinates; where `z` is zero it is the neutral one. -/
structure Point where
  x : Nat
  y : Nat
  z : Nat
deriving DecidableEq, Repr

variable (c : Curve)

def neutral : Point := ⟨1, 1, 0⟩

def base : Point := ⟨c.baseX, c.baseY, 1⟩

def mul (a b : Nat) : Nat := a * b % c.field

def sub (a b : Nat) : Nat := Modular.sub a b c.field

/-- The sum of a point and itself. -/
def double (p : Point) : Point :=
  let zz := c.mul p.z p.z
  let yy := c.mul p.y p.y
  let s := c.mul (4 * p.x) yy
  let m := c.mul (3 * c.sub p.x zz) (p.x + zz)
  let x := c.sub (c.mul m m) (c.mul 2 s)
  ⟨x, c.sub (c.mul m (c.sub s x)) (c.mul (8 * yy) yy), c.mul (2 * p.y) p.z⟩

def add (p q : Point) : Point :=
  if p.z = 0 then q
  else if q.z = 0 then p
  else
    let pz := c.mul p.z p.z
    let qz := c.mul q.z q.z
    let u := c.mul p.x qz
    let s := c.mul p.y (c.mul qz q.z)
    let h := c.sub (c.mul q.x pz) u
    let r := c.sub (c.mul q.y (c.mul pz p.z)) s
    if h = 0 then (if r = 0 then c.double p else neutral)
    else
      let hh := c.mul h h
      let hhh := c.mul h hh
      let v := c.mul u hh
      let x := c.sub (c.sub (c.mul r r) hhh) (c.mul 2 v)
      ⟨x, c.sub (c.mul r (c.sub v x)) (c.mul s hhh), c.mul h (c.mul p.z q.z)⟩

/-- The sum of `n` points `p`. -/
def times (n : Nat) (p : Point) : Point :=
  if n = 0 then neutral
  else
    let rest := times (n / 2) (c.double p)
    if n % 2 = 1 then c.add p rest else rest
termination_by n

/-- The affine coordinates of a point other than the neutral one. -/
def affine? (p : Point) : Option (Nat × Nat) :=
  if p.z = 0 then none
  else
    let w := Modular.inverse p.z c.field
    let ww := c.mul w w
    some (c.mul p.x ww, c.mul p.y (c.mul w ww))

/-- The right-hand side of the equation of the curve. -/
def cubic (x : Nat) : Nat := c.sub (c.mul (c.mul x x) x + c.b) (c.mul 3 x)

def onCurve (x y : Nat) : Bool := x < c.field && y < c.field && c.mul y y = c.cubic x % c.field

/-! ## Written points -/

/-- A point as its two coordinates after a mark. -/
def encodePoint (x y : Nat) : Bytes := 0x04 :: Bytes.ofNat c.size x ++ Bytes.ofNat c.size y

/-- Reads a point; one with a single coordinate says in its mark which of two it is. -/
def decodePoint? (b : Bytes) : Option Point :=
  match b with
  | [] => none
  | mark :: rest =>
    let x := Bytes.toNat (rest.take c.size)
    if mark = 0x04 ∧ rest.length = 2 * c.size then
      let y := Bytes.toNat (rest.drop c.size)
      if c.onCurve x y then some ⟨x, y, 1⟩ else none
    else if (mark = 0x02 ∨ mark = 0x03) ∧ rest.length = c.size then
      let y := Modular.power (c.cubic x) ((c.field + 1) / 4) c.field
      let y := if y % 2 = mark.toNat % 2 then y else c.field - y
      if c.onCurve x y then some ⟨x, y, 1⟩ else none
    else none

end Curve

end Federation.Crypto
