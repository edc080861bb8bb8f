import KernelWallet.Instances

/-! The field of 2^255 - 19 elements. -/

namespace KernelWallet

def Field.prime : Nat := 2 ^ 255 - 19

instance : NeZero Field.prime := ⟨by decide⟩

abbrev Field := Fin Field.prime

namespace Field

def ofNat (n : Nat) : Field :=
  ⟨n % prime, Nat.mod_lt _ (by decide)⟩

/-- A power, by repeated squaring. -/
def pow (x : Field) (n : Nat) : Field :=
  if _h : n = 0 then 1
  else
    let half := pow x (n / 2)
    if n % 2 = 0 then half * half else half * half * x
termination_by n
decreasing_by omega

/-- The inverse, as a power; zero has none and gives zero. -/
def inv (x : Field) : Field :=
  pow x (prime - 2)

/-- Whether the least residue is odd, the sign of a square root. -/
def isOdd (x : Field) : Bool :=
  x.val % 2 == 1

def sqrtMinusOne : Field :=
  pow 2 ((prime - 1) / 4)

/-- An element whose square is `u / v` whenever `u / v` is a square. -/
def sqrtRatio (u v : Field) : Field :=
  let v3 := v * v * v
  let r := u * v3 * pow (u * (v3 * v3 * v)) ((prime - 5) / 8)
  if v * (r * r) = u then r else r * sqrtMinusOne

end Field

end KernelWallet
