import Entitlement.Bytes

/-!
# The twisted Edwards curve of Ed25519

The curve is `-x² + y² = 1 + d x² y²` over the integers modulo the prime `p = 2²⁵⁵ - 19`. A
point is kept as `(X : Y : Z : T)` with `x = X / Z`, `y = Y / Z` and `x y = T / Z`, so that
points are added without dividing. `Point.compress` writes a point as its `y` with the
lowest bit of `x` in the place of the highest bit, and `Point.decompress?` finds the point
again, from any 32 octets whose `y` belongs to one.
-/

namespace Entitlement.Edwards

/-! ### The field -/

/-- The prime `2²⁵⁵ - 19`. -/
def p : Nat := Nat.pow 2 255 - 19

/-- The difference modulo `p`. -/
def sub (a b : Nat) : Nat := (a + (p - b % p)) % p

/-- The product modulo `p`. -/
def mul (a b : Nat) : Nat := a * b % p

/-- The power modulo `p` of `a` with the `w` low bits of `n` as exponent. -/
def pow (a : Nat) : (w : Nat) → (n : Nat) → Nat
  | 0, _ => 1
  | w + 1, n =>
    let r := pow a w (n / 2)
    let s := mul r r
    if n % 2 = 1 then mul s a else s

/-- The inverse of `a`, zero for zero. -/
def inv (a : Nat) : Nat := pow a 255 (p - 2)

/-- A square root of -1. -/
def rootMinusOne : Nat := pow 2 255 ((p - 1) / 4)

/-- The even square root of `u / v`, if that is a square. -/
def sqrtRatio? (u v : Nat) : Option Nat :=
  let r := mul (mul u (pow v 3 3)) (pow (mul u (pow v 3 7)) 255 ((p - 5) / 8))
  let check := mul v (mul r r)
  let root :=
    if check = u % p then some r
    else if check = sub 0 (u % p) then some (mul r rootMinusOne)
    else none
  root.map fun r => if r % 2 = 1 then p - r else r

/-! ### Points -/

/-- The coefficient of the curve, -121665 / 121666. -/
def d : Nat := mul (p - 121665) (inv 121666)

/-- A point of the curve. -/
structure Point where
  x : Nat
  y : Nat
  z : Nat
  t : Nat

namespace Point

/-- The neutral point. -/
def zero : Point := ⟨0, 1, 1, 0⟩

/-- The point with the given coordinates. -/
def ofAffine (x y : Nat) : Point := ⟨x, y, 1, mul x y⟩

/-- The sum of two points, which may be equal. -/
def add (a b : Point) : Point :=
  let low := mul (sub a.y a.x) (sub b.y b.x)
  let high := mul (a.y + a.x) (b.y + b.x)
  let c := mul (2 * mul a.t d) b.t
  let e := mul (2 * a.z) b.z
  ⟨mul (sub high low) (sub e c), mul (e + c) (high + low),
    mul (sub e c) (e + c), mul (sub high low) (high + low)⟩

/-- The opposite point. -/
def neg (a : Point) : Point := ⟨sub 0 a.x, a.y, a.z, sub 0 a.t⟩

/-- The multiple of a point by the `w` low bits of `n`. -/
def scale (a : Point) : (w : Nat) → (n : Nat) → Point
  | 0, _ => zero
  | w + 1, n =>
    let b := scale a w (n / 2)
    let b := add b b
    if n % 2 = 1 then add b a else b

/-- The generator, the point with `y = 4 / 5` and even `x`. -/
def base : Point :=
  ofAffine 15112221349535400772501151409588531511454012693041857206046113283949847762202
    46316835694926478169428394003475163141307993866256225615783033603165251855960

example : mul 5 base.y = 4 := by decide +kernel

/-! ### Octets -/

/-- The 32 octets of a point. -/
def compress (a : Point) : Bytes :=
  let z := inv a.z
  Bytes.littleEndian 32 (mul a.y z + Nat.pow 2 255 * (mul a.x z % 2))

theorem length_compress (a : Point) :
  a.compress.length = 32
  := Bytes.length_littleEndian 32 _

/-- The point that octets stand for, if there is one. -/
def decompress? (bs : Bytes) : Option Point :=
  let n := Bytes.ofLittleEndian bs
  let y := n % Nat.pow 2 255 % p
  let y2 := mul y y
  (sqrtRatio? (sub y2 1) (mul d y2 + 1)).map fun x =>
    ofAffine (if n / Nat.pow 2 255 % 2 = 1 then sub 0 x else x) y

end Point

end Entitlement.Edwards
