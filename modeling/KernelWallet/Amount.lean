import KernelWallet.Bytes

/-! Amounts with eight decimal places: natural numbers of units of 10^-8, below 2^256. -/

namespace KernelWallet

/-- Why an amount cannot be read or computed. -/
inductive AmountError where
  | invalidDecimal
  | tooPrecise
  | nonPositive
  | overflow
  | underflow
  | divideByZero
  | tooLarge (bytes : Nat)
  deriving DecidableEq, Repr

def AmountError.message : AmountError → String
  | .invalidDecimal => "Invalid decimal string"
  | .tooPrecise => "More than 8 fractional digits"
  | .nonPositive => "Amount must be strictly positive"
  | .overflow => "Amount overflow"
  | .underflow => "Amount underflow"
  | .divideByZero => "Division by zero"
  | .tooLarge bytes => s!"Encoded amount is {bytes} bytes, at most 32 are allowed"

structure Amount where
  units : Nat
  units_lt : units < 2 ^ 256
  deriving DecidableEq, Repr

namespace Amount

def precision : Nat := 8

def unitsPerWhole : Nat := 10 ^ 8

def zero : Amount := ⟨0, by decide⟩

instance : Inhabited Amount := ⟨zero⟩

/-- The amount of so many units, if there is one. -/
def ofUnits (n : Nat) : Except AmountError Amount :=
  if h : n < 2 ^ 256 then .ok ⟨n, h⟩ else .error .overflow

def ofUInt64 (n : UInt64) : Amount :=
  ⟨n.toNat, Nat.lt_trans n.toNat_lt (by decide)⟩

/-- The amount of a 64-bit number of whole tokens. -/
def ofWhole (n : UInt64) : Amount :=
  ⟨n.toNat * unitsPerWhole, by have := n.toNat_lt; simp only [unitsPerWhole]; omega⟩

def isZero (a : Amount) : Bool := a.units == 0

def add (a b : Amount) : Except AmountError Amount :=
  ofUnits (a.units + b.units)

def sub (a b : Amount) : Except AmountError Amount :=
  if b.units ≤ a.units then .ok ⟨a.units - b.units, by have := a.units_lt; omega⟩
  else .error .underflow

def mul (a : Amount) (factor : UInt64) : Except AmountError Amount :=
  ofUnits (a.units * factor.toNat)

/-- The quotient, rounded down. -/
def div (a : Amount) (divisor : UInt64) : Except AmountError Amount :=
  if divisor = 0 then .error .divideByZero
  else .ok ⟨a.units / divisor.toNat, Nat.lt_of_le_of_lt (Nat.div_le_self ..) a.units_lt⟩

/-- How many whole steps fit, at most 2^64 - 1; none of a zero step. -/
def count (a step : Amount) : Nat :=
  min (a.units / step.units) (2 ^ 64 - 1)

def sum (as : List Amount) : Except AmountError Amount :=
  as.foldlM add zero

/-- The shortest big-endian bytes: those of the full width without the zeros in front. Zero has
none. -/
def toBytes (a : Amount) : Bytes :=
  (Bytes.ofNatBE 32 a.units).dropWhile (· == 0)

/-- Reads big-endian bytes. Leading zeros do not count towards the 32 that are allowed. -/
def ofBytes (b : Bytes) : Except AmountError Amount :=
  let significant := b.dropWhile (· == 0)
  if h : significant.length ≤ 32 then
    .ok ⟨Bytes.toNatBE significant, Bytes.toNatBE_lt_of_length_le h⟩
  else .error (.tooLarge b.length)

def ofDigits (ds : List Char) : Nat :=
  ds.foldl (fun n c => 10 * n + (c.toNat - 48)) 0

/-- The units of the digits behind the point, the first of which counts tenths. -/
def ofFraction (ds : List Char) : Nat :=
  ds.zipIdx.foldl (fun n (c, i) => n + (c.toNat - 48) * 10 ^ (precision - 1 - i)) 0

/-- Reads a decimal number: digits, or digits around a point of which one side may be empty. -/
def ofText (s : String) : Except AmountError Amount := do
  let chars := s.toList
  let whole := chars.takeWhile (· != '.')
  let fraction := (chars.dropWhile (· != '.')).drop 1
  if whole.isEmpty && fraction.isEmpty then throw .invalidDecimal
  if !(whole.all Char.isDigit && fraction.all Char.isDigit) then throw .invalidDecimal
  if fraction.length > precision then throw .tooPrecise
  let tokens ← ofUnits (ofDigits whole)
  let wholeUnits ← ofUnits (tokens.units * unitsPerWhole)
  ofUnits (wholeUnits.units + ofFraction fraction)

/-- Reads a decimal number that is not zero. -/
def ofPositiveText (s : String) : Except AmountError Amount := do
  let a ← ofText s
  if a.isZero then throw .nonPositive
  return a

/-- The decimal text, always with eight places. -/
def toText (a : Amount) : String :=
  let fraction := (Nat.toDigits 10 (a.units % unitsPerWhole))
  let zeros := List.replicate (precision - fraction.length) '0'
  String.ofList (Nat.toDigits 10 (a.units / unitsPerWhole) ++ '.' :: zeros ++ fraction)

end Amount

end KernelWallet
