import KernelWallet.Bytes
import Mathlib

/-! Byte strings as numbers, texts and vectors. A number has one spelling of each width, and all its
spellings put zeros in front of the shortest one. -/

namespace KernelWallet.Bytes

/-! ## Parts of a byte -/

theorem toNat_shiftRight {x k : UInt8} (hk : k.toNat < 8) :
    (x >>> k).toNat = x.toNat / 2 ^ k.toNat := by
  rw [UInt8.toNat_shiftRight, Nat.mod_eq_of_lt hk, Nat.shiftRight_eq_div_pow]

theorem toNat_and_mask {x mask : UInt8} {n : Nat} (h : mask.toNat = 2 ^ n - 1) :
    (x &&& mask).toNat = x.toNat % 2 ^ n := by
  rw [UInt8.toNat_and, h, Nat.and_two_pow_sub_one_eq_mod]

/-- What is joined without overlap and without loss is added. -/
theorem toNat_join {x y k : UInt8} {m n : Nat} (hx : x.toNat = m) (hy : y.toNat = n)
    (hk : k.toNat < 8) (hm : 2 ^ k.toNat * m < 256) (hn : n < 2 ^ k.toNat) :
    (x <<< k ||| y).toNat = 2 ^ k.toNat * m + n := by
  subst hx hy
  rw [UInt8.toNat_or, UInt8.toNat_shiftLeft, Nat.mod_eq_of_lt hk, Nat.shiftLeft_eq, Nat.mul_comm,
    Nat.mod_eq_of_lt hm, Nat.two_pow_add_eq_or_of_lt hn]

/-! ## Numbers of a width -/

theorem toNatLE_ofNatLE (width n : Nat) : toNatLE (ofNatLE width n) = n % 256 ^ width := by
  induction width generalizing n with
  | zero => simp [ofNatLE, toNatLE, Nat.mod_one]
  | succ width ih =>
    have hh := ih (n / 256)
    simp only [ofNatLE, toNatLE, List.foldr_cons] at hh ⊢
    rw [hh, UInt8.toNat_ofNat', show (2 : Nat) ^ 8 = 256 from rfl, Nat.pow_succ', Nat.mod_mul]

theorem ofNatLE_toNatLE (b : Bytes) : ofNatLE b.length (toNatLE b) = b := by
  induction b with
  | nil => rfl
  | cons x b ih =>
    have hx := x.toNat_lt
    have hhead : UInt8.ofNat (toNatLE (x :: b)) = x := by
      apply UInt8.toNat_inj.mp
      simp only [toNatLE, List.foldr_cons, UInt8.toNat_ofNat']
      omega
    have htail : toNatLE (x :: b) / 256 = toNatLE b := by
      simp only [toNatLE, List.foldr_cons]
      omega
    rw [List.length_cons, ofNatLE, hhead, htail, ih]

theorem toNatBE_ofNatBE {width n : Nat} (h : n < 256 ^ width) : toNatBE (ofNatBE width n) = n := by
  rw [toNatBE_eq, ofNatBE, List.reverse_reverse, toNatLE_ofNatLE, Nat.mod_eq_of_lt h]

theorem ofNatBE_toNatBE (b : Bytes) : ofNatBE b.length (toNatBE b) = b := by
  have h := ofNatLE_toNatLE b.reverse
  rw [List.length_reverse] at h
  rw [toNatBE_eq, ofNatBE, h, List.reverse_reverse]

/-! ## The shortest spelling -/

theorem lt_pow_width (n : Nat) : n < 256 ^ width n := by
  by_cases hz : n = 0
  · rw [hz]
    exact Nat.pow_pos (by decide)
  · have hlog : n < 2 ^ (n.log2 + 1) := (Nat.log2_lt hz).mp (Nat.lt_succ_self _)
    have hle : n.log2 + 1 ≤ 8 * (n.log2 / 8 + 1) := by omega
    calc
      n < 2 ^ (n.log2 + 1) := hlog
      _ ≤ 2 ^ (8 * (n.log2 / 8 + 1)) := Nat.pow_le_pow_right (by decide) hle
      _ = 256 ^ width n := by rw [width, if_neg hz, Nat.pow_mul]

theorem width_le_of_lt {n k : Nat} (h : n < 256 ^ k) : width n ≤ k := by
  by_cases hz : n = 0
  · simp [width, hz]
  · have hpow : n < 2 ^ (8 * k) := by rwa [Nat.pow_mul]
    have hlog := (Nat.log2_lt hz).mpr hpow
    rw [width, if_neg hz]
    omega

@[simp] theorem length_minimalBE (n : Nat) : (minimalBE n).length = width n := by
  simp [minimalBE]

theorem toNatBE_minimalBE (n : Nat) : toNatBE (minimalBE n) = n :=
  toNatBE_ofNatBE (lt_pow_width n)

theorem ofNatLE_add {width n : Nat} (zeros : Nat) (h : n < 256 ^ width) :
    ofNatLE (width + zeros) n = ofNatLE width n ++ List.replicate zeros 0 := by
  induction width generalizing n with
  | zero =>
    have hz : n = 0 := by simpa using h
    subst hz
    induction zeros with
    | zero => rfl
    | succ zeros ih => simpa [ofNatLE, List.replicate_succ] using ih
  | succ width ih =>
    have hdiv : n / 256 < 256 ^ width := by
      rw [Nat.pow_succ] at h
      omega
    rw [Nat.succ_add, ofNatLE, ofNatLE, ih hdiv, List.cons_append]

/-- A byte string is the shortest spelling of its number behind zeros. -/
theorem exists_zeros (b : Bytes) :
    ∃ zeros, b = List.replicate zeros 0 ++ minimalBE (toNatBE b) := by
  have hle := width_le_of_lt (toNatBE_lt b)
  obtain ⟨zeros, hz⟩ := Nat.exists_eq_add_of_le hle
  refine ⟨zeros, ?_⟩
  have hb := ofNatBE_toNatBE b
  rw [hz, ofNatBE, ofNatLE_add zeros (lt_pow_width _), List.reverse_append,
    List.reverse_replicate] at hb
  exact hb.symm

theorem toNatBE_replicate_append (n : Nat) (b : Bytes) :
    toNatBE (List.replicate n 0 ++ b) = toNatBE b := by
  induction n with
  | zero => rfl
  | succ n ih => exact ih

/-- A leading zero could be left out, and the rest would be a shorter spelling. -/
theorem head?_minimalBE_ne (n : Nat) : (minimalBE n).head? ≠ some 0 := by
  intro h
  obtain ⟨b, hb⟩ := List.head?_eq_some_iff.mp h
  have hlt : n < 256 ^ b.length := by
    calc
      n = toNatBE (0 :: b) := by rw [← hb, toNatBE_minimalBE]
      _ = toNatBE b := toNatBE_replicate_append 1 b
      _ < 256 ^ b.length := toNatBE_lt b
  have hlen : width n = b.length + 1 := by rw [← length_minimalBE, hb, List.length_cons]
  have hle := width_le_of_lt hlt
  omega

theorem width_le_iff {n k : Nat} : width n ≤ k ↔ n < 256 ^ k :=
  ⟨fun h => (lt_pow_width n).trans_le (Nat.pow_le_pow_right (by decide) h), width_le_of_lt⟩

theorem dropWhile_eq (b : Bytes) : b.dropWhile (· == 0) = minimalBE (toNatBE b) := by
  obtain ⟨zeros, hb⟩ := exists_zeros b
  have hzeros : ∀ x ∈ List.replicate zeros (0 : UInt8), (x == 0) = true := by simp
  have hrest : (minimalBE (toNatBE b)).dropWhile (· == 0) = minimalBE (toNatBE b) := by
    have hhead := head?_minimalBE_ne (toNatBE b)
    cases hm : minimalBE (toNatBE b) with
    | nil => rfl
    | cons x rest =>
      rw [hm, List.head?_cons] at hhead
      have hx : x ≠ 0 := fun h => hhead (congrArg some h)
      rw [List.dropWhile_cons, if_neg (by simpa using hx)]
  conv_lhs => rw [hb]
  rw [List.dropWhile_append_of_pos hzeros, hrest]

/-! ## Texts and vectors -/

theorem char_le_iff {c d : Char} : c ≤ d ↔ c.toNat ≤ d.toNat :=
  UInt32.le_iff_toNat_le

theorem toNat_ofNat_of_lt {n : Nat} (h : n < 256) : (UInt8.ofNat n).toNat = n := by
  rw [UInt8.toNat_ofNat', Nat.mod_eq_of_lt h]

theorem toText?_ofText (s : String) : toText? (ofText s) = some s := by
  have hb : (ofText s).toByteArray = s.toByteArray := by
    apply ByteArray.ext
    simp [ofText]
  rw [toText?, hb, String.fromUTF8?, dif_pos s.isValidUTF8]
  rfl

theorem ofText_of_toText? {b : Bytes} {s : String} (h : toText? b = some s) : ofText s = b := by
  rw [toText?, String.fromUTF8?] at h
  split at h
  · obtain rfl := Option.some.inj h
    simp [ofText, String.fromUTF8]
  · exact absurd h (by simp)

theorem toVector?_toList {n : Nat} (v : Vector UInt8 n) : toVector? n v.toList = some v := by
  rw [toVector?, dif_pos v.length_toList]
  rfl

theorem toList_of_toVector? {n : Nat} {b : Bytes} {v : Vector UInt8 n}
    (h : toVector? n b = some v) : v.toList = b := by
  rw [toVector?] at h
  split at h
  · obtain rfl := Option.some.inj h
    simp [Vector.toList]
  · exact absurd h (by simp)

end KernelWallet.Bytes
