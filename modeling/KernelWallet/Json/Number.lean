import KernelWallet.Json.Basic

/-! Numbers in JSON text. Integers of 64 bits are exact. Any other number is taken as its first
digits that fit 64 bits, scaled by a power of ten in double precision, and is written with the
fewest digits that read back. -/

namespace KernelWallet.Json

namespace Double

/-- `f` times a power of ten, if that is finite. -/
def scale? (f : Float) (exponent : Int) : Option Float :=
  if f == 0 then some f
  else if 0 ≤ exponent then
    if 308 < exponent then none
    else
      let x := f * Float.ofScientific 1 false exponent.toNat
      if x.isInf then none else some x
  else if -308 ≤ exponent then some (f / Float.ofScientific 1 false (-exponent).toNat)
  else if -616 ≤ exponent then
    some (f / Float.ofScientific 1 false 308 / Float.ofScientific 1 false (-exponent - 308).toNat)
  else some 0

/-- The double of `mantissa * 10 ^ exponent`, if that is finite. -/
def ofParts? (negative : Bool) (mantissa : Nat) (exponent : Int) : Option UInt64 := do
  let f ← scale? (UInt64.ofNat mantissa).toFloat exponent
  return (if negative then -f else f).toBits

/-- A positive rational number. -/
structure Ratio where
  num : Nat
  den : Nat

def Ratio.binary (m : Nat) (q : Int) : Ratio :=
  if 0 ≤ q then ⟨m * 2 ^ q.toNat, 1⟩ else ⟨m, 2 ^ (-q).toNat⟩

def Ratio.decimal (c : Nat) (k : Int) : Ratio :=
  if 0 ≤ k then ⟨c * 10 ^ k.toNat, 1⟩ else ⟨c, 10 ^ (-k).toNat⟩

def Ratio.lt (a b : Ratio) : Bool := a.num * b.den < b.num * a.den

def Ratio.le (a b : Ratio) : Bool := a.num * b.den ≤ b.num * a.den

/-- The greatest `c` for which `c * 10 ^ k` does not exceed a number. -/
def Ratio.floorAt (a : Ratio) (k : Int) : Nat :=
  if 0 ≤ k then a.num / (a.den * 10 ^ k.toNat) else a.num * 10 ^ (-k).toNat / a.den

/-- The exponent of the first decimal digit of a number above `10 ^ -400`. -/
def Ratio.magnitude (a : Ratio) : Int :=
  ((Nat.toDigits 10 (a.floorAt (-400))).length : Int) - 401

/-- A finite double `m * 2 ^ q` and the numbers halfway to its neighbours. They read back as the
double itself if `m` is even. -/
structure Cell where
  m : Nat
  low : Ratio
  value : Ratio
  high : Ratio

def Cell.ofBits (bits : UInt64) : Cell :=
  let fraction : Nat := bits.toNat % 2 ^ 52
  let biased : Nat := bits.toNat / 2 ^ 52 % 2 ^ 11
  let m := if biased = 0 then fraction else fraction + 2 ^ 52
  let q : Int := if biased = 0 then -1074 else (biased : Int) - 1075
  let low := if fraction = 0 ∧ 1 < biased then Ratio.binary (4 * m - 1) (q - 2)
    else Ratio.binary (2 * m - 1) (q - 1)
  { m, low, value := Ratio.binary m q, high := Ratio.binary (2 * m + 1) (q - 1) }

/-- Whether a number reads back as the double. -/
def Cell.holds (c : Cell) (x : Ratio) : Bool :=
  if c.m % 2 = 0 then c.low.le x && x.le c.high else c.low.lt x && x.lt c.high

/-- The nearer of the two neighbours of the double among the multiples of `10 ^ k`, if it reads
back; on a tie the even one. -/
def Cell.nearest? (c : Cell) (k : Int) : Option Nat :=
  let below := c.value.floorAt k
  let lowHit := c.holds (Ratio.decimal below k)
  let highHit := c.holds (Ratio.decimal (below + 1) k)
  let middle := Ratio.decimal (10 * below + 5) (k - 1)
  if lowHit && highHit then
    some (if c.value.lt middle then below
      else if middle.lt c.value then below + 1
      else if below % 2 = 0 then below else below + 1)
  else if lowHit then some below
  else if highHit then some (below + 1)
  else none

/-- The fewest digits that read back, and their power of ten. -/
def Cell.shortest (c : Cell) : Nat × Int :=
  let top := c.value.magnitude
  ((List.range 17).findSome? fun (n : Nat) =>
    let k := top - (n : Int)
    (c.nearest? k).map (·, k)).getD (0, 0)

/-- Digits without their trailing zeros, and the power of ten that makes up for them. -/
def trim (c : Nat) (k : Int) : List Char × Int :=
  let digits := (Nat.toDigits 10 c).reverse
  let zeros := digits.takeWhile (· == '0')
  ((digits.drop zeros.length).reverse, k + zeros.length)

def zeros (n : Int) : String := String.ofList (List.replicate n.toNat '0')

def exponent (e : Int) : String := if e < 0 then s!"e{e}" else s!"e+{e}"

/-- Positional text from `1e-5` to below `1e16`, with `.0` behind whole numbers; an exponent
elsewhere. -/
def toText (bits : UInt64) : String :=
  let sign := if bits.toNat / 2 ^ 63 = 1 then "-" else ""
  if bits.toNat % 2 ^ 63 = 0 then sign ++ "0.0" else
  let (digits, k) := let (c, k) := (Cell.ofBits bits).shortest; trim c k
  let point : Int := digits.length + k
  let text (ds : List Char) := String.ofList ds
  sign ++
    if 0 ≤ k ∧ point ≤ 16 then text digits ++ zeros k ++ ".0"
    else if 0 < point ∧ point ≤ 16 then
      text (digits.take point.toNat) ++ "." ++ text (digits.drop point.toNat)
    else if -5 < point ∧ point ≤ 0 then "0." ++ zeros (-point) ++ text digits
    else if digits.length = 1 then text digits ++ exponent (point - 1)
    else text (digits.take 1) ++ "." ++ text (digits.drop 1) ++ exponent (point - 1)

end Double

namespace Number

/-- Digits read so far: a number of 64 bits, and the power of ten that stands for the digits left
out. -/
structure Digits where
  mantissa : Nat := 0
  exponent : Int := 0
  exact : Bool := true

def value (c : Char) : Nat := c.toNat - 48

/-- Reads a digit before the point. From the first that does not fit on, digits only scale. -/
def Digits.whole (d : Digits) (c : Char) : Digits :=
  let n := 10 * d.mantissa + value c
  if d.exact ∧ n < 2 ^ 64 then { d with mantissa := n }
  else { d with exponent := d.exponent + 1, exact := false }

/-- Reads a digit after the point. From the first that does not fit on, digits are dropped. -/
def Digits.fraction (d : Digits) (c : Char) : Digits :=
  let n := 10 * d.mantissa + value c
  if d.exact ∧ n < 2 ^ 64 then { d with mantissa := n, exponent := d.exponent - 1 }
  else { d with exact := false }

/-- The exponent of `e`, an optional sign and digits; zero if there is nothing. -/
def exponent? : List Char → Option Int
  | [] => some 0
  | e :: rest =>
    let (negative, digits) := match rest with
      | '-' :: ds => (true, ds)
      | '+' :: ds => (false, ds)
      | ds => (false, ds)
    if (e == 'e' || e == 'E') && !digits.isEmpty && digits.all Char.isDigit then
      let n : Int := digits.foldl (fun n c => 10 * n + value c) 0
      some (if negative then -n else n)
    else none

/-- The double of digits and a further power of ten, unless it is too large. -/
def real (negative : Bool) (d : Digits) (exponent : Int) : Json :=
  (Double.ofParts? negative d.mantissa (d.exponent + exponent)).elim .unfit .real

/-- An integer that fits 64 bits, signed if it is negative; any other is a double. There is no
negative zero among the integers. -/
def whole (negative : Bool) (d : Digits) : Json :=
  if d.exact && !negative then .int d.mantissa
  else if d.exact ∧ 0 < d.mantissa ∧ d.mantissa ≤ 2 ^ 63 then .int (-(d.mantissa : Int))
  else real negative d 0

/-- The number of a text: a sign, digits without a leading zero, a fraction, an exponent. -/
def ofChars? (cs : List Char) : Option Json :=
  let (negative, cs) := match cs with
    | '-' :: rest => (true, rest)
    | rest => (false, rest)
  let digits := cs.takeWhile Char.isDigit
  let rest := cs.drop digits.length
  let d := digits.foldl Digits.whole {}
  if digits.isEmpty || (digits.head? == some '0' && 1 < digits.length) then none
  else match rest with
    | [] => some (whole negative d)
    | '.' :: rest =>
      let fraction := rest.takeWhile Char.isDigit
      if fraction.isEmpty then none
      else
        let d := fraction.foldl Digits.fraction { d with exact := true }
        (exponent? (rest.drop fraction.length)).map (real negative d)
    | rest => (exponent? rest).map (real negative d)

end Number

end KernelWallet.Json
