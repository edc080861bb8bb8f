import KernelWallet.Proofs.Base64
import KernelWallet.Proofs.Hex
import KernelWallet.Transaction.Json

/-! Which bytes a text of extra is read as. Base64 is tried first, and the digits of hex are digits
of base64 too, so hex is taken for base64 whenever its digits come in groups of four. -/

namespace KernelWallet

theorem Base64.exists_value?_of_hex {c : Char} {n : UInt8} (h : Hex.value? c = some n) :
    ∃ m, Base64.value? c = some m := by
  have hc : (65 ≤ c.toNat ∧ c.toNat ≤ 90) ∨ (97 ≤ c.toNat ∧ c.toNat ≤ 122) ∨
      (48 ≤ c.toNat ∧ c.toNat ≤ 57) := by
    simp only [Hex.value?, Bytes.char_le_iff, Char.reduceToNat] at h
    split_ifs at h <;> omega
  simp only [value?, Bytes.char_le_iff, Char.reduceToNat]
  rcases hc with hc | hc | hc
  · exact ⟨_, if_pos hc⟩
  · exact ⟨_, by rw [if_neg (by omega), if_pos hc]⟩
  · exact ⟨_, by rw [if_neg (by omega), if_neg (by omega), if_pos hc]⟩

namespace Extra

variable {s : String} {e b : Bytes}

theorem ofText?_eq_some_iff : ofText? s = some b ↔
    Base64.encode b = s ∨ (∀ b', Base64.encode b' ≠ s) ∧ s.toLower = Hex.encode b := by
  rw [← Base64.decode?_eq_some_iff, ← Base64.decode?_eq_none_iff, ← Hex.decode?_eq_some_iff,
    ofText?]
  cases Base64.decode? s <;> simp

theorem ofText?_encode (e : Bytes) : ofText? (Base64.encode e) = some e :=
  ofText?_eq_some_iff.mpr (.inl rfl)

section

variable (h : s.toLower = Hex.encode e)

include h

/-- Two digits for a byte are not a multiple of four if the bytes are odd in number. -/
theorem ofText?_of_odd (hodd : Odd e.length) : ofText? s = some e := by
  refine ofText?_eq_some_iff.mpr (.inr ⟨?_, h⟩)
  rintro b rfl
  have hlength := Hex.length_of_toLower h
  rw [String.length_toList, Base64.length_encode] at hlength
  obtain ⟨k, hk⟩ := hodd
  omega

theorem exists_ofText?_of_even (heven : Even e.length) :
    ∃ b, ofText? s = some b ∧ 2 * b.length = 3 * e.length := by
  obtain ⟨k, hk⟩ := heven
  have hlength : s.toList.length = 4 * k := by
    rw [Hex.length_of_toLower h]
    omega
  have hvalues : ∀ c ∈ s.toList, (Base64.value? c).isSome := by
    intro c hc
    obtain ⟨n, hn⟩ := Hex.exists_value?_of_mem h hc
    exact Option.isSome_iff_exists.mpr (Base64.exists_value?_of_hex hn)
  obtain ⟨b, hb, hcount⟩ := Base64.exists_decodeChars hlength hvalues []
  refine ⟨b, ofText?_eq_some_iff.mpr (.inl (Base64.decode?_eq_some_iff.mp hb)), ?_⟩
  rw [hcount, List.length_nil]
  omega

/-- The base64 of a byte string is always read as that byte string. The hex of it, in either case,
is so only if there are no bytes or an odd number of them; else it is read as half as many bytes
again. -/
theorem ofText?_eq_some_iff_of_toLower : ofText? (Base64.encode e) = some e ∧
    (ofText? s = some e ↔ e = [] ∨ Odd e.length) ∧
    (e ≠ [] → Even e.length → ∃ b, ofText? s = some b ∧ b ≠ e ∧ 2 * b.length = 3 * e.length) := by
  have hlonger : e ≠ [] → ∀ b : Bytes, 2 * b.length = 3 * e.length → b ≠ e := by
    rintro hne b hlength rfl
    have hpos := List.length_pos_iff.mpr hne
    omega
  refine ⟨ofText?_encode e, ⟨fun hread => ?_, ?_⟩, fun hne heven => ?_⟩
  · by_contra hnot
    obtain ⟨hne, hodd⟩ := not_or.mp hnot
    obtain ⟨b, hb, hlength⟩ := exists_ofText?_of_even h (Nat.not_odd_iff_even.mp hodd)
    exact hlonger hne b hlength (Option.some.inj (hb.symm.trans hread))
  · rintro (rfl | hodd)
    · obtain ⟨b, hb, hlength⟩ := exists_ofText?_of_even h ⟨0, rfl⟩
      have hnil : b = [] := List.length_eq_zero_iff.mp (by rw [List.length_nil] at hlength; omega)
      rw [hb, hnil]
    · exact ofText?_of_odd h hodd
  · obtain ⟨b, hb, hlength⟩ := exists_ofText?_of_even h heven
    exact ⟨b, hb, hlonger hne b hlength, hlength⟩

end

/-- The five bytes of `hello` are read from their hex, and the first four of them are not. -/
theorem ofText?_eq_some_iff_of_toLower_hello :
    let hell : Bytes := [0x68, 0x65, 0x6c, 0x6c]
    let hello : Bytes := hell ++ [0x6f]
    "68656C6c6F".toLower = Hex.encode hello ∧ "68656C6C".toLower = Hex.encode hell ∧
      ofText? (Base64.encode hello) = some hello ∧ ofText? "68656C6c6F" = some hello ∧
      ∃ b, ofText? "68656C6C" = some b ∧ b ≠ hell ∧ b.length = 6 := by
  intro hell hello
  have hodd : "68656C6c6F".toLower = Hex.encode hello :=
    Hex.decode?_eq_some_iff.mp (by decide +kernel)
  have heven : "68656C6C".toLower = Hex.encode hell :=
    Hex.decode?_eq_some_iff.mp (by decide +kernel)
  obtain ⟨hbase64, hhex, _⟩ := ofText?_eq_some_iff_of_toLower hodd
  obtain ⟨b, hb, hne, hlength⟩ := (ofText?_eq_some_iff_of_toLower heven).2.2 (by decide) (by decide)
  refine ⟨hodd, heven, hbase64, hhex.mpr (.inr (by decide)), b, hb, hne, ?_⟩
  have hfour : hell.length = 4 := rfl
  omega

end Extra

end KernelWallet
