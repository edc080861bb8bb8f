import KernelWallet.Proofs.Hex
import KernelWallet.Proofs.Reading
import KernelWallet.Uuid

/-! The hyphenated text of an identifier: the digits of its 16 bytes in order, in five groups with
hyphens between, which are 36 characters. It is read as the identifier again. -/

namespace KernelWallet

namespace Uuid

/-- The digits of `n` bytes from the `i`-th on. -/
def digits (u : Uuid) (i n : Nat) : List Char :=
  ((u.toBytes.drop i).take n).flatMap Hex.pair

variable (u : Uuid)

theorem length_toBytes : u.toBytes.length = 16 :=
  u.bytes.length_toList

theorem length_digits {i n : Nat} (h : i + n ≤ 16) : (u.digits i n).length = 2 * n := by
  rw [digits, Hex.length_flatMap_pair, List.length_take, List.length_drop, length_toBytes,
    Nat.min_eq_left (by omega)]

theorem digits_append (i m n : Nat) :
    u.digits i m ++ u.digits (i + m) n = u.digits i (m + n) := by
  rw [digits, digits, digits, List.take_add, List.drop_drop, List.flatMap_append]

theorem ofDigits?_digits : ofDigits? (u.digits 0 16) = some u := by
  have htake : u.toBytes.take 16 = u.toBytes := List.take_of_length_le u.length_toBytes.le
  rw [ofDigits?, digits, List.drop_zero, htake, Hex.decodeChars_flatMap_pair]
  simp only [toBytes, Option.bind_eq_bind, Option.bind_some, Bytes.toVector?_toList]
  rfl

/-! ## Groups of digits -/

theorem toList_toText : u.toText.toList = u.digits 0 4 ++ '-' :: (u.digits 4 2 ++
    '-' :: (u.digits 6 2 ++ '-' :: (u.digits 8 2 ++ '-' :: u.digits 10 6))) := by
  simp [toText, digits, Hex.encode]

theorem length_toText : u.toText.toList.length = 36 := by
  simp [toList_toText, length_digits]

theorem ofHyphenated?_of_length {a b c d e : List Char} (ha : a.length = 8) (hb : b.length = 4)
    (hc : c.length = 4) (hd : d.length = 4) (he : e.length = 12) :
    ofHyphenated? (a ++ '-' :: (b ++ '-' :: (c ++ '-' :: (d ++ '-' :: e)))) =
      ofDigits? (a ++ b ++ c ++ d ++ e) := by
  simp [ofHyphenated?, ha, hb, hc, hd, he, List.drop_append, List.drop_eq_nil_of_le,
    List.take_of_length_le]

theorem ofText?_toText : ofText? u.toText = some u := by
  have hread : ofHyphenated? u.toText.toList = ofDigits? (u.digits 0 16) := by
    rw [toList_toText, ofHyphenated?_of_length (u.length_digits (by decide))
      (u.length_digits (by decide)) (u.length_digits (by decide)) (u.length_digits (by decide))
      (u.length_digits (by decide)), digits_append, digits_append, digits_append, digits_append]
  simp only [ofText?, length_toText, hread, ofDigits?_digits]
  rfl

theorem toText_inj {u v : Uuid} : u.toText = v.toText ↔ u = v :=
  write_inj (Option.some_injective Uuid) ofText?_toText

theorem exists_head?_toText : ∃ n < 16, u.toText.toList.head? = some (Hex.digit n) := by
  have hlen := u.length_toBytes
  cases hb : u.toBytes with
  | nil => simp [hb] at hlen
  | cons x rest => exact ⟨x >>> 4, Hex.high_lt x, by simp [toList_toText, digits, hb, Hex.pair]⟩

end Uuid

end KernelWallet
