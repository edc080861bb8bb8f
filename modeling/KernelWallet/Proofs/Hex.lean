import KernelWallet.Key.Basic
import KernelWallet.Proofs.Bytes
import Mathlib

/-! A hex text stands for the bytes that are written as this text but for the case of its letters,
so what is written reads back, and with the digits of a value of a fixed width so does the value. -/

namespace KernelWallet

namespace Hex

/-! ## The halves of a byte -/

theorem toNat_high (b : UInt8) : (b >>> 4).toNat = b.toNat / 16 :=
  Bytes.toNat_shiftRight (by decide)

theorem toNat_low (b : UInt8) : (b &&& 15).toNat = b.toNat % 16 :=
  Bytes.toNat_and_mask (n := 4) rfl

theorem high_low (b : UInt8) : (16 : UInt8) * (b >>> 4) + (b &&& 15) = b := by
  have hb := b.toNat_lt
  apply UInt8.toNat_inj.mp
  rw [UInt8.toNat_add, UInt8.toNat_mul, toNat_high, toNat_low]
  simp only [UInt8.reduceToNat]
  omega

theorem high_lt (b : UInt8) : b >>> 4 < 16 := by
  have hb := b.toNat_lt
  rw [UInt8.lt_iff_toNat_lt, toNat_high]
  simp only [UInt8.reduceToNat]
  omega

theorem low_lt (b : UInt8) : b &&& 15 < 16 := by
  rw [UInt8.lt_iff_toNat_lt, toNat_low]
  exact Nat.mod_lt _ (by decide)

/-! ## Digits of either case -/

theorem value?_digit {n : UInt8} (h : n < 16) : value? (digit n) = some n := by
  have hall : ∀ k < 16, value? (digit (UInt8.ofNat k)) = some (UInt8.ofNat k) := by decide
  simpa using hall n.toNat (UInt8.lt_iff_toNat_lt.mp h)

theorem toNat_digit {n : UInt8} (h : n < 16) :
    (digit n).toNat = if n.toNat < 10 then 48 + n.toNat else 87 + n.toNat := by
  have hall : ∀ k < 16, (digit (UInt8.ofNat k)).toNat = if k < 10 then 48 + k else 87 + k := by
    decide
  simpa using hall n.toNat (UInt8.lt_iff_toNat_lt.mp h)

theorem isUpper_iff {c : Char} : c.isUpper ↔ 65 ≤ c.toNat ∧ c.toNat ≤ 90 := by
  rw [Char.isUpper, decide_eq_true_iff, ge_iff_le, UInt32.le_iff_toNat_le, UInt32.le_iff_toNat_le]
  rfl

theorem toNat_toLower (c : Char) :
    c.toLower.toNat = if 65 ≤ c.toNat ∧ c.toNat ≤ 90 then c.toNat + 32 else c.toNat := by
  by_cases hc : c.isUpper
  · have hrange := isUpper_iff.mp hc
    have hvalid : (c.toNat + 32).isValidChar := .inl (by omega)
    rw [Char.toLower_eq_of_isUpper hc, Char.toNat_ofNat, if_pos hvalid, if_pos hrange]
  · rw [Char.toLower_eq_of_not_isUpper hc, if_neg (mt isUpper_iff.mpr hc)]

theorem value?_eq_some_iff {c : Char} {n : UInt8} :
    value? c = some n ↔ n < 16 ∧ digit n = c.toLower := by
  have hrange : n < 16 ↔ n.toNat < 16 := UInt8.lt_iff_toNat_lt
  constructor
  · intro h
    have hcode : n.toNat < 16 ∧
        c.toLower.toNat = if n.toNat < 10 then 48 + n.toNat else 87 + n.toNat := by
      simp only [value?, Bytes.char_le_iff, Char.reduceToNat] at h
      rw [toNat_toLower]
      split at h
      · obtain rfl := Option.some.inj h
        rw [Bytes.toNat_ofNat_of_lt (by omega)]
        exact ⟨by omega, by split_ifs <;> omega⟩
      · split at h
        · obtain rfl := Option.some.inj h
          rw [Bytes.toNat_ofNat_of_lt (by omega)]
          exact ⟨by omega, by split_ifs <;> omega⟩
        · split at h
          · obtain rfl := Option.some.inj h
            rw [Bytes.toNat_ofNat_of_lt (by omega)]
            exact ⟨by omega, by split_ifs <;> omega⟩
          · exact absurd h (by simp)
    have hn := hrange.mpr hcode.1
    exact ⟨hn, Char.toNat_inj.mp ((toNat_digit hn).trans hcode.2.symm)⟩
  · rintro ⟨hn, hdigit⟩
    by_cases hc : c.isUpper
    · have hupper := isUpper_iff.mp hc
      have hcode := toNat_digit hn
      have hn := hrange.mp hn
      rw [hdigit, toNat_toLower, if_pos hupper] at hcode
      have hvalue : UInt8.ofNat (c.toNat - 55) = n := by
        apply UInt8.toNat_inj.mp
        rw [Bytes.toNat_ofNat_of_lt (by omega)]
        split at hcode <;> omega
      simp only [value?, Bytes.char_le_iff, Char.reduceToNat]
      rw [if_neg (by omega), if_neg (by omega), if_pos (by split at hcode <;> omega), hvalue]
    · rw [← Char.toLower_eq_of_not_isUpper hc, ← hdigit, value?_digit hn]

theorem pair_join {x y : UInt8} (hx : x < 16) (hy : y < 16) :
    pair (16 * x + y) = [digit x, digit y] := by
  have hx : x.toNat < 16 := UInt8.lt_iff_toNat_lt.mp hx
  have hy : y.toNat < 16 := UInt8.lt_iff_toNat_lt.mp hy
  have hvalue : ((16 : UInt8) * x + y).toNat = 16 * x.toNat + y.toNat := by
    rw [UInt8.toNat_add, UInt8.toNat_mul]
    simp only [UInt8.reduceToNat]
    omega
  have hhigh : ((16 : UInt8) * x + y) >>> 4 = x := by
    apply UInt8.toNat_inj.mp
    rw [toNat_high, hvalue]
    omega
  have hlow : ((16 : UInt8) * x + y) &&& 15 = y := by
    apply UInt8.toNat_inj.mp
    rw [toNat_low, hvalue]
    omega
  rw [pair, hhigh, hlow]

theorem decodeChars_of_map_toLower {rest done : Bytes} {text : List Char}
    (h : text.map Char.toLower = rest.flatMap pair) :
    decodeChars done text = some (done.reverse ++ rest) := by
  induction rest generalizing text done with
  | nil =>
    obtain rfl := List.map_eq_nil_iff.mp h
    simp [decodeChars]
  | cons x rest ih =>
    rw [List.flatMap_cons, pair, List.cons_append, List.cons_append, List.nil_append] at h
    obtain ⟨hi, _, rfl, hhi, h⟩ := List.map_eq_cons_iff.mp h
    obtain ⟨lo, text, rfl, hlo, h⟩ := List.map_eq_cons_iff.mp h
    have hhigh : value? hi = some (x >>> 4) := value?_eq_some_iff.mpr ⟨high_lt x, hhi.symm⟩
    have hlow : value? lo = some (x &&& 15) := value?_eq_some_iff.mpr ⟨low_lt x, hlo.symm⟩
    simp only [decodeChars, hhigh, hlow, high_low, ih h, List.reverse_cons, List.append_assoc,
      List.singleton_append]

theorem exists_of_decodeChars {done b : Bytes} {text : List Char}
    (h : decodeChars done text = some b) :
    ∃ rest, b = done.reverse ++ rest ∧ text.map Char.toLower = rest.flatMap pair := by
  fun_induction decodeChars done text with
  | case1 done =>
    obtain rfl := Option.some.inj h
    exact ⟨[], (List.append_nil _).symm, rfl⟩
  | case2 => exact absurd h (by simp)
  | case3 done hi lo text x y hlo hhi ih =>
    obtain ⟨rest, rfl, htext⟩ := ih h
    obtain ⟨hx, hhi⟩ := value?_eq_some_iff.mp hhi
    obtain ⟨hy, hlo⟩ := value?_eq_some_iff.mp hlo
    refine ⟨(16 * x + y) :: rest, by simp, ?_⟩
    rw [List.flatMap_cons, pair_join hx hy, List.map_cons, List.map_cons, htext, hhi, hlo]
    rfl
  | case4 => exact absurd h (by simp)

theorem map_toLower_flatMap_pair (b : Bytes) :
    (b.flatMap pair).map Char.toLower = b.flatMap pair := by
  have hlower : ∀ {n : UInt8}, n < 16 → (digit n).toLower = digit n := fun hn =>
    (value?_eq_some_iff.mp (value?_digit hn)).2.symm
  have hpair : ∀ x, (pair x).map Char.toLower = pair x := by
    intro x
    rw [pair, List.map_cons, List.map_singleton, hlower (high_lt x), hlower (low_lt x)]
  simp only [List.map_flatMap, hpair]

theorem decodeChars_flatMap_pair (b : Bytes) : decodeChars [] (b.flatMap pair) = some b :=
  decodeChars_of_map_toLower (map_toLower_flatMap_pair b)

theorem decode?_encode (b : Bytes) : decode? (encode b) = some b := by
  rw [decode?, encode, String.toList_ofList, decodeChars_flatMap_pair]

theorem length_flatMap_pair (b : Bytes) : (b.flatMap pair).length = 2 * b.length := by
  simp [List.length_flatMap, pair, Nat.mul_comm]

theorem exists_digit_of_mem {c : Char} {b : Bytes} (h : c ∈ b.flatMap pair) :
    ∃ n < 16, digit n = c := by
  obtain ⟨x, _, hx⟩ := List.mem_flatMap.mp h
  rw [pair, List.mem_cons, List.mem_singleton] at hx
  rcases hx with rfl | rfl
  · exact ⟨_, high_lt x, rfl⟩
  · exact ⟨_, low_lt x, rfl⟩

theorem toLower_eq_encode_iff {s : String} {b : Bytes} :
    s.toLower = encode b ↔ s.toList.map Char.toLower = b.flatMap pair := by
  rw [← String.toList_inj, String.toLower, String.toList_map, encode, String.toList_ofList]

/-- A text is read as the bytes that it is the hex of, whatever the case of its letters. -/
theorem decode?_eq_some_iff {s : String} {b : Bytes} :
    decode? s = some b ↔ s.toLower = encode b := by
  rw [decode?, toLower_eq_encode_iff]
  constructor
  · intro h
    obtain ⟨rest, rfl, htext⟩ := exists_of_decodeChars h
    exact htext
  · exact decodeChars_of_map_toLower

section

variable {s : String} {b : Bytes} (h : s.toLower = encode b)

include h

theorem length_of_toLower : s.toList.length = 2 * b.length := by
  rw [← length_flatMap_pair, ← toLower_eq_encode_iff.mp h, List.length_map]

theorem exists_value?_of_mem {c : Char} (hc : c ∈ s.toList) : ∃ n, value? c = some n := by
  have hmem : c.toLower ∈ b.flatMap pair := by
    rw [← toLower_eq_encode_iff.mp h]
    exact List.mem_map_of_mem hc
  obtain ⟨n, hn, hdigit⟩ := exists_digit_of_mem hmem
  exact ⟨n, value?_eq_some_iff.mpr ⟨hn, hdigit⟩⟩

end

end Hex

theorem fixedHex_encode {n : Nat} (v : Vector UInt8 n) :
    fixedHex n (Hex.encode v.toList) = .ok v := by
  rw [fixedHex, Hex.decode?_encode]
  simp only [fixedBytes, Bytes.toVector?_toList]

theorem Key.ofHexExact_toHex (k : Key) : ofHexExact k.toHex = .ok k := by
  simp only [ofHexExact, toHex, toBytes, fixedHex_encode]
  rfl

theorem Hash.ofHex_toHex (h : Hash) : ofHex h.toHex = .ok h := by
  simp only [ofHex, toHex, toBytes, fixedHex_encode]
  rfl

theorem Signature.ofHex_toHex (s : Signature) : ofHex s.toHex = .ok s := by
  simp only [ofHex, toHex, toBytes, fixedHex_encode]
  rfl

end KernelWallet
