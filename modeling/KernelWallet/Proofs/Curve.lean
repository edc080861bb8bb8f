import KernelWallet.Curve.Ed25519
import KernelWallet.Key.Arithmetic
import KernelWallet.Proofs.Reading

/-! The laws of the group that keys live in. -/

namespace KernelWallet

/-- The points are a group. -/
structure Curve.IsGroup (E : Curve) : Prop where
  add_assoc (p q r : E.Point) : E.add (E.add p q) r = E.add p (E.add q r)
  zero_add (p : E.Point) : E.add E.zero p = p
  neg_add (p : E.Point) : E.add (E.neg p) p = E.zero

namespace Curve.IsGroup

variable {E : Curve} (hE : E.IsGroup)

include hE

theorem neg_add_cancel_left (p q : E.Point) : E.add (E.neg p) (E.add p q) = q := by
  rw [← hE.add_assoc, hE.neg_add, hE.zero_add]

theorem add_left_cancel {p q r : E.Point} (h : E.add p q = E.add p r) : q = r := by
  rw [← hE.neg_add_cancel_left p q, h, hE.neg_add_cancel_left]

end Curve.IsGroup

/-- The points are a commutative group and scalars act on it, modulo their order on the multiples of
the base point. A point outside of those may have another order, so no more is asked of it than
that multiples of a sum are sums of multiples. -/
structure Curve.IsLawful (E : Curve) : Prop where
  add_assoc (p q r : E.Point) : E.add (E.add p q) r = E.add p (E.add q r)
  add_comm (p q : E.Point) : E.add p q = E.add q p
  zero_add (p : E.Point) : E.add E.zero p = p
  neg_add (p : E.Point) : E.add (E.neg p) p = E.zero
  smul_add (s : Scalar) (p q : E.Point) : E.smul s (E.add p q) = E.add (E.smul s p) (E.smul s q)
  add_mulBase (s t : Scalar) : E.mulBase (s + t) = E.add (E.mulBase s) (E.mulBase t)
  mul_mulBase (s t : Scalar) : E.mulBase (s * t) = E.smul s (E.mulBase t)
  decompress_compress (p : E.Point) : E.decompress (E.compress p) = some p

namespace Curve.IsLawful

variable {E : Curve} (hE : E.IsLawful)

include hE

theorem isGroup : E.IsGroup :=
  ⟨hE.add_assoc, hE.zero_add, hE.neg_add⟩

theorem isSome_decompress (p : E.Point) : (E.decompress (E.compress p)).isSome = true := by
  rw [hE.decompress_compress]
  rfl

theorem compress_inj {p q : E.Point} : E.compress p = E.compress q ↔ p = q :=
  write_inj (Option.some_injective E.Point) hE.decompress_compress

theorem add_zero (p : E.Point) : E.add p E.zero = p := by
  rw [hE.add_comm, hE.zero_add]

theorem smul_zero (s : Scalar) : E.smul s E.zero = E.zero := by
  have h := hE.smul_add s E.zero E.zero
  rw [hE.zero_add] at h
  exact hE.isGroup.add_left_cancel (h.symm.trans (hE.add_zero _).symm)

theorem smul_neg_add (s : Scalar) (p : E.Point) :
    E.add (E.smul s (E.neg p)) (E.smul s p) = E.zero := by
  rw [← hE.smul_add, hE.neg_add, hE.smul_zero]

/-- The equation that a signature is checked by. -/
theorem smul_neg_add_mulBase (k a r : Scalar) :
    E.add (E.smul k (E.neg (E.mulBase a))) (E.mulBase (k * a + r)) = E.mulBase r := by
  rw [hE.add_mulBase, hE.mul_mulBase, ← hE.add_assoc, hE.smul_neg_add, hE.zero_add]

theorem mulBase_zero : E.mulBase 0 = E.zero := by
  have h := hE.add_mulBase 0 0
  rw [Fin.add_zero] at h
  exact hE.isGroup.add_left_cancel (h.symm.trans (hE.add_zero _).symm)

end Curve.IsLawful

theorem Key.point_ofPoint {E : Curve} {p : E.Point}
    (h : E.decompress (E.compress p) = some p) : (Key.ofPoint E p).point E = .ok p := by
  rw [Key.point, Key.ofPoint, h]

theorem Key.isPoint_ofPoint {E : Curve} {p : E.Point}
    (h : E.decompress (E.compress p) = some p) : (Key.ofPoint E p).isPoint E = true := by
  rw [Key.isPoint, Key.ofPoint, h]
  rfl

/-! ## Points named by scalars -/

namespace Scalar

theorem toNatLE_toBytes (s : Scalar) : Bytes.toNatLE s.toBytes.toList = s.val := by
  have hlt : s.val < 256 ^ 32 := s.isLt.trans (by decide)
  exact (Bytes.toNatLE_ofNatLE 32 s.val).trans (Nat.mod_eq_of_lt hlt)

theorem ofBytes?_toBytes (s : Scalar) : ofBytes? s.toBytes = some s := by
  simp only [ofBytes?, toNatLE_toBytes, s.isLt, dif_pos]

/-- A scalar has one canonical encoding. -/
theorem ofBytes?_eq_some_iff {b : Vector UInt8 32} {s : Scalar} :
    ofBytes? b = some s ↔ b = s.toBytes := by
  constructor
  · intro h
    rw [ofBytes?] at h
    split at h
    · obtain rfl := Option.some.inj h
      have hb := Bytes.ofNatLE_toNatLE b.toList
      rw [b.length_toList] at hb
      exact Vector.toList_inj.mp hb.symm
    · exact absurd h (by simp)
  · rintro rfl
    exact ofBytes?_toBytes s

end Scalar

/-- The group in which every point is given by the multiple of the base point that it is. -/
def Curve.ofScalars : Curve where
  Point := Scalar
  zero := 0
  add := (· + ·)
  neg := (- ·)
  smul := (· * ·)
  base := 1
  compress := Scalar.toBytes
  decompress := Scalar.ofBytes?

namespace Curve

theorem compress_ofScalars (p : Scalar) : ofScalars.compress p = p.toBytes :=
  rfl

theorem decompress_ofScalars (b : Vector UInt8 32) :
    ofScalars.decompress b = Scalar.ofBytes? b :=
  rfl

theorem decompress_compress_ofScalars (p : Scalar) :
    ofScalars.decompress (ofScalars.compress p) = some p := by
  rw [compress_ofScalars, decompress_ofScalars]
  exact Scalar.ofBytes?_toBytes p

open Fin.CommRing in
theorem isLawful_ofScalars : ofScalars.IsLawful where
  add_assoc (p q r : Scalar) := add_assoc p q r
  add_comm (p q : Scalar) := add_comm p q
  zero_add (p : Scalar) := zero_add p
  neg_add (p : Scalar) := neg_add_cancel p
  smul_add (s p q : Scalar) := mul_add s p q
  add_mulBase s t := add_mul s t 1
  mul_mulBase s t := mul_assoc s t 1
  decompress_compress := decompress_compress_ofScalars

end Curve

/-! ## The neutral point -/

namespace Ed25519

theorem sqrtRatio_zero (v : Field) : Field.sqrtRatio 0 v = 0 := by
  simp [Field.sqrtRatio]

theorem decompress_compress_zero :
    Point.decompress (Point.compress Point.zero) = some Point.zero := by
  have hn : Bytes.toNatLE (Point.compress Point.zero).toList = 1 :=
    (Bytes.toNatLE_ofNatLE 32 1).trans (by decide)
  have hy : Field.ofNat (1 % 2 ^ 255) = 1 := by decide
  have hx : (1 : Field) * 1 - 1 = 0 := by decide
  have hsign : Field.isOdd 0 = (2 ^ 255 ≤ 1 : Bool) := by decide
  simp only [Point.decompress, hn, hy, hx, sqrtRatio_zero, hsign, if_true]
  exact dif_pos Point.onCurve_zero

end Ed25519

theorem Key.isPoint_zero_ed25519 :
    (Key.ofPoint Curve.ed25519 Curve.ed25519.zero).isPoint Curve.ed25519 = true := by
  refine isPoint_ofPoint ?_
  simp only [Curve.ed25519]
  exact Ed25519.decompress_compress_zero

end KernelWallet
