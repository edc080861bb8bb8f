import KernelWallet.Amount
import KernelWallet.Proofs.Reading

/-! Checked amounts as natural numbers. An operation succeeds exactly when the number it should give
is one of the numbers below 2^256, and so does a sum, whatever the order of its terms. -/

namespace KernelWallet.Amount

theorem ext_units {a b : Amount} (h : a.units = b.units) : a = b := by
  cases a
  cases b
  exact (mk.injEq ..).mpr h

/-- Whatever the error is, a number that is in range gives the amount of so many units. -/
theorem dite_eq_ok_iff {n : Nat} {e : AmountError} {a : Amount} :
    (if h : n < 2 ^ 256 then .ok ⟨n, h⟩ else .error e : Except AmountError Amount) = .ok a ↔
      a.units = n := by
  split
  · next h => exact ⟨fun ha => by rw [← Except.ok.inj ha], fun ha => congrArg _ (ext_units ha.symm)⟩
  · next h =>
    refine ⟨fun ha => absurd ha (by simp), fun ha => absurd a.units_lt ?_⟩
    rw [ha]
    exact h

theorem ofUnits_eq_ok_iff {n : Nat} {a : Amount} : ofUnits n = .ok a ↔ a.units = n :=
  dite_eq_ok_iff

theorem add_eq_ok_iff {a b c : Amount} : a.add b = .ok c ↔ c.units = a.units + b.units :=
  ofUnits_eq_ok_iff

theorem sub_eq_ok_iff {a b c : Amount} : a.sub b = .ok c ↔ c.units + b.units = a.units := by
  rw [sub]
  split
  · next h =>
    constructor
    · intro hc
      rw [← Except.ok.inj hc]
      exact Nat.sub_add_cancel h
    · intro hc
      exact congrArg _ (ext_units (Nat.sub_eq_of_eq_add hc.symm))
  · next h =>
    refine ⟨fun hc => absurd hc (by simp), fun hc => absurd ?_ h⟩
    omega

theorem isZero_iff {a : Amount} : a.isZero ↔ a.units = 0 := by
  simp [isZero]

/-- A partial sum is an amount whenever the whole sum is. -/
theorem exists_units_iff {n rest : Nat} {p : Prop} {c : Amount} :
    (∃ t : Amount, t.units = n ∧ p ∧ c.units = t.units + rest) ↔ p ∧ c.units = n + rest := by
  constructor
  · rintro ⟨t, rfl, h⟩
    exact h
  · rintro ⟨hp, hc⟩
    have hlt : n < 2 ^ 256 := by
      have := c.units_lt
      omega
    exact ⟨⟨n, hlt⟩, rfl, hp, hc⟩

theorem ofUnits_of_lt {n : Nat} (h : n < 2 ^ 256) : ofUnits n = .ok ⟨n, h⟩ :=
  dif_pos h

theorem ofUnits_of_le {n : Nat} (h : 2 ^ 256 ≤ n) : ofUnits n = .error .overflow :=
  dif_neg (Nat.not_lt.mpr h)

theorem ofUnits_units (a : Amount) : ofUnits a.units = .ok a :=
  ofUnits_of_lt a.units_lt

/-- A partial sum is out of range only if the whole sum is, and then with the same error. -/
theorem ofUnits_bind_ofUnits (n rest : Nat) :
    (ofUnits n >>= fun a => ofUnits (a.units + rest)) = ofUnits (n + rest) := by
  by_cases h : n < 2 ^ 256
  · rw [ofUnits_of_lt h]
    rfl
  · have hle := Nat.not_lt.mp h
    rw [ofUnits_of_le hle, ofUnits_of_le (Nat.le_add_right_of_le hle)]
    rfl

theorem foldlM_add_eq (l : List Amount) (a : Amount) :
    l.foldlM add a = ofUnits (a.units + (l.map units).sum) := by
  induction l generalizing a with
  | nil => exact (ofUnits_units a).symm
  | cons b l ih =>
    rw [List.foldlM_cons, List.map_cons, List.sum_cons, ← Nat.add_assoc, ← ofUnits_bind_ofUnits]
    simp only [ih]
    rfl

theorem sum_eq (l : List Amount) : sum l = ofUnits (l.map units).sum := by
  rw [sum, foldlM_add_eq, zero, Nat.zero_add]

theorem sum_eq_ok_iff {l : List Amount} {c : Amount} :
    sum l = .ok c ↔ c.units = (l.map units).sum := by
  rw [sum_eq, ofUnits_eq_ok_iff]

end KernelWallet.Amount
