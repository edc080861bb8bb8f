import KernelWallet.Proofs.Amount

/-! Amounts as byte strings. Reading takes the zeros off and then counts the bytes, which is to ask
whether the number is below 2^256. Writing takes the zeros off the full width, which leaves the
shortest of all byte strings that are read as the amount. -/

namespace KernelWallet

/-- The number of which the bytes are the digits in base 256, the last digit counting ones. -/
def Bytes.spelled (b : Bytes) : Nat :=
  Nat.ofDigits 256 (b.map UInt8.toNat).reverse

theorem Bytes.toNatBE_eq_spelled (b : Bytes) : toNatBE b = b.spelled := by
  rw [toNatBE_eq, spelled, ← List.map_reverse, Nat.ofDigits_eq_foldr, List.foldr_map]
  rfl

namespace Amount

variable {a : Amount} {b : Bytes}

theorem toBytes_eq (a : Amount) : a.toBytes = Bytes.minimalBE a.units := by
  have hlt : a.units < 256 ^ 32 := a.units_lt
  rw [toBytes, Bytes.dropWhile_eq, Bytes.toNatBE_ofNatBE hlt]

theorem ofBytes_eq (b : Bytes) : ofBytes b = if h : Bytes.toNatBE b < 2 ^ 256 then
    .ok ⟨Bytes.toNatBE b, h⟩ else .error (.tooLarge b.length) := by
  have hlength : (b.dropWhile (· == 0)).length ≤ 32 ↔ Bytes.toNatBE b < 2 ^ 256 := by
    have hrange : 256 ^ 32 = 2 ^ 256 := by norm_num
    rw [Bytes.dropWhile_eq, Bytes.length_minimalBE, Bytes.width_le_iff, hrange]
  have hnumber : Bytes.toNatBE (b.dropWhile (· == 0)) = Bytes.toNatBE b := by
    rw [Bytes.dropWhile_eq, Bytes.toNatBE_minimalBE]
  rw [ofBytes]
  by_cases h : Bytes.toNatBE b < 2 ^ 256
  · rw [dif_pos (hlength.mpr h), dif_pos h]
    simp only [hnumber]
  · rw [dif_neg (mt hlength.mp h), dif_neg h]

theorem ofBytes_eq_ok_iff : ofBytes b = .ok a ↔ a.units = Bytes.toNatBE b := by
  rw [ofBytes_eq]
  exact dite_eq_ok_iff

theorem ofBytes_toBytes (a : Amount) : ofBytes a.toBytes = .ok a := by
  rw [ofBytes_eq_ok_iff, toBytes_eq, Bytes.toNatBE_minimalBE]

theorem length_toBytes_le (a : Amount) : a.toBytes.length ≤ 32 := by
  rw [toBytes_eq, Bytes.length_minimalBE]
  exact Bytes.width_le_of_lt (by simpa using a.units_lt)

theorem head?_toBytes_ne (a : Amount) : a.toBytes.head? ≠ some 0 := by
  rw [toBytes_eq]
  exact Bytes.head?_minimalBE_ne a.units

theorem exists_ofBytes_iff : (∃ a, ofBytes b = .ok a) ↔ Bytes.toNatBE b < 2 ^ 256 := by
  simp only [ofBytes_eq_ok_iff]
  constructor
  · rintro ⟨a, ha⟩
    rw [← ha]
    exact a.units_lt
  · exact fun h => ⟨⟨_, h⟩, rfl⟩

theorem exists_zeros_of_ofBytes (h : ofBytes b = .ok a) :
    ∃ zeros, b = List.replicate zeros 0 ++ a.toBytes := by
  rw [toBytes_eq, ofBytes_eq_ok_iff.mp h]
  exact Bytes.exists_zeros b

/-- Whatever else is read as the amount has zeros in front, and so is longer. -/
theorem eq_toBytes_iff : ofBytes b = .ok a ∧ b.length ≤ a.toBytes.length ↔ b = a.toBytes := by
  constructor
  · rintro ⟨hread, hlen⟩
    obtain ⟨zeros, rfl⟩ := exists_zeros_of_ofBytes hread
    rw [List.length_append, List.length_replicate] at hlen
    have hzero : zeros = 0 := by omega
    rw [hzero, List.replicate_zero, List.nil_append]
  · rintro rfl
    exact ⟨ofBytes_toBytes a, le_rfl⟩

/-- Bytes are read as the number they spell, if it is in range, and what is written is the one
shortest byte string that is read as the amount. -/
theorem ofBytes_eq_ok_iff_spelled :
    (∀ b : Bytes, (∃ a, ofBytes b = .ok a) ↔ b.spelled < 2 ^ 256) ∧
    (∀ (b : Bytes) (a : Amount), ofBytes b = .ok a ↔ a.units = b.spelled) ∧
    ∀ a : Amount, a.toBytes.head? ≠ some 0 ∧ a.toBytes.length ≤ 32 ∧ ofBytes a.toBytes = .ok a ∧
      ∀ b : Bytes, ofBytes b = .ok a ∧ b.length ≤ a.toBytes.length ↔ b = a.toBytes := by
  simp only [← Bytes.toNatBE_eq_spelled]
  exact ⟨fun _ => exists_ofBytes_iff, fun _ _ => ofBytes_eq_ok_iff, fun a =>
    ⟨head?_toBytes_ne a, length_toBytes_le a, ofBytes_toBytes a, fun _ => eq_toBytes_iff⟩⟩

end Amount

end KernelWallet
