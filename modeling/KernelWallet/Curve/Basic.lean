import KernelWallet.Bytes

/-! Scalars, and what the library asks of the group its keys live in. Everything above this layer
takes the group as an argument and uses only the operations named here. -/

namespace KernelWallet

def Scalar.order : Nat := 2 ^ 252 + 27742317777372353535851937790883648493

instance : NeZero Scalar.order := ⟨by decide⟩

/-- A number below the order of the base point. Its arithmetic is modulo that order. -/
abbrev Scalar := Fin Scalar.order

namespace Scalar

def reduce (n : Nat) : Scalar :=
  ⟨n % order, Nat.mod_lt _ (by decide)⟩

/-- The canonical encoding: 32 bytes, least significant first. -/
def toBytes (s : Scalar) : Vector UInt8 32 :=
  Bytes.vectorLE 32 s.val

/-- Reads a canonical encoding; a number at or above the order is refused. -/
def ofBytes? (b : Vector UInt8 32) : Option Scalar :=
  let n := Bytes.toNatLE b.toList
  if h : n < order then some ⟨n, h⟩ else none

end Scalar

/-- A commutative group of points with a distinguished base point and a 32-byte form of its
points. Not every 32 bytes are the form of a point. -/
structure Curve where
  Point : Type
  zero : Point
  add : Point → Point → Point
  neg : Point → Point
  smul : Scalar → Point → Point
  base : Point
  compress : Point → Vector UInt8 32
  decompress : Vector UInt8 32 → Option Point

namespace Curve

variable (E : Curve)

def sub (p q : E.Point) : E.Point :=
  E.add p (E.neg q)

def mulBase (s : Scalar) : E.Point :=
  E.smul s E.base

def sum (ps : List E.Point) : E.Point :=
  ps.foldl E.add E.zero

end Curve

end KernelWallet
