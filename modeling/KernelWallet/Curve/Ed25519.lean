import KernelWallet.Curve.Basic
import KernelWallet.Curve.Field

/-! The twisted Edwards curve `-x² + y² = 1 + d x² y²`. A point is kept in affine coordinates, so
equal points are equal values; multiples are computed in extended coordinates, which need no
division before the last step. -/

namespace KernelWallet.Ed25519

/-- The constant of the curve equation, `-121665 / 121666`. -/
def d : Field :=
  -121665 * Field.inv 121666

def OnCurve (x y : Field) : Prop :=
  y * y - x * x = 1 + d * (x * x) * (y * y)

instance (x y : Field) : Decidable (OnCurve x y) :=
  inferInstanceAs (Decidable (_ = _))

structure Point where
  x : Field
  y : Field
  onCurve : OnCurve x y

namespace Point

def ofCoords? (x y : Field) : Option Point :=
  if h : OnCurve x y then some ⟨x, y, h⟩ else none

theorem onCurve_zero : OnCurve 0 1 := by
  simp only [OnCurve, Fin.mul_zero, Fin.zero_mul]
  decide

def zero : Point := ⟨0, 1, onCurve_zero⟩

def neg (p : Point) : Point :=
  (ofCoords? (-p.x) p.y).getD zero

/-- The sum. The addition law has no exceptions and stays on the curve, so the coordinates it gives
are always those of a point. -/
def add (p q : Point) : Point :=
  let k := d * p.x * q.x * p.y * q.y
  let x := (p.x * q.y + p.y * q.x) * Field.inv (1 + k)
  let y := (p.y * q.y + p.x * q.x) * Field.inv (1 - k)
  (ofCoords? x y).getD zero

end Point

/-- A point in extended coordinates: `x = X / Z`, `y = Y / Z`, `x y = T / Z`. -/
structure Extended where
  x : Field
  y : Field
  z : Field
  t : Field

namespace Extended

def zero : Extended := ⟨0, 1, 1, 0⟩

def ofPoint (p : Point) : Extended :=
  ⟨p.x, p.y, 1, p.x * p.y⟩

def twoD : Field := 2 * d

/-- The sum, by the same law as `Point.add` without its divisions. -/
def add (p q : Extended) : Extended :=
  let a := (p.y - p.x) * (q.y - q.x)
  let b := (p.y + p.x) * (q.y + q.x)
  let c := p.t * twoD * q.t
  let zz := p.z * q.z
  let e := b - a
  let f := zz + zz - c
  let g := zz + zz + c
  let h := b + a
  ⟨e * f, g * h, f * g, e * h⟩

/-- A multiple, by doubling and adding. -/
def nsmul (n : Nat) (p : Extended) : Extended :=
  if _h : n = 0 then zero
  else
    let half := nsmul (n / 2) p
    let twice := add half half
    if n % 2 = 0 then twice else add twice p
termination_by n
decreasing_by omega

def toPoint (p : Extended) : Point :=
  let i := Field.inv p.z
  (Point.ofCoords? (p.x * i) (p.y * i)).getD Point.zero

end Extended

namespace Point

def smul (s : Scalar) (p : Point) : Point :=
  (Extended.nsmul s.val (Extended.ofPoint p)).toPoint

/-- The 32-byte form: `y`, least significant byte first, with the sign of `x` in the top bit. -/
def compress (p : Point) : Vector UInt8 32 :=
  Bytes.vectorLE 32 (p.y.val + if p.x.isOdd then 2 ^ 255 else 0)

/-- Reads the 32-byte form. `y` is taken modulo the prime, and a sign on a zero `x` is ignored. -/
def decompress (b : Vector UInt8 32) : Option Point :=
  let n := Bytes.toNatLE b.toList
  let y := Field.ofNat (n % 2 ^ 255)
  let x := Field.sqrtRatio (y * y - 1) (d * (y * y) + 1)
  ofCoords? (if x.isOdd = (2 ^ 255 ≤ n : Bool) then x else -x) y

/-- The base point, with `y = 4/5` and even `x`. -/
def base : Point :=
  let y := 4 * Field.inv 5
  let x := Field.sqrtRatio (y * y - 1) (d * (y * y) + 1)
  (ofCoords? (if x.isOdd then -x else x) y).getD zero

end Point

end Ed25519

/-- The group of the kernel's keys. -/
def Curve.ed25519 : Curve where
  Point := Ed25519.Point
  zero := Ed25519.Point.zero
  add := Ed25519.Point.add
  neg := Ed25519.Point.neg
  smul := Ed25519.Point.smul
  base := Ed25519.Point.base
  compress := Ed25519.Point.compress
  decompress := Ed25519.Point.decompress

end KernelWallet
