import KernelWallet.Proofs.Amount
import KernelWallet.Transaction.Validation

/-! The balance of a transaction as an equation between natural numbers: what its inputs bring in
by themselves, with the amounts of the outputs they spend, is what its outputs carry away. -/

namespace KernelWallet

def SpentOutput.totalUnits (l : List SpentOutput) : Nat :=
  (l.map fun s => s.amount.units).sum

def Output.totalUnits (l : List Output) : Nat :=
  (l.map fun o => o.amount.units).sum

namespace Input

/-- What the input brings in without spending an output. -/
def ownUnits (i : Input) : Nat :=
  match i.deposit, i.mint with
  | some d, _ => d.amount.units
  | none, some m => m.amount.units
  | none, none => 0

def totalOwnUnits (l : List Input) : Nat :=
  (l.map ownUnits).sum

theorem ownUnits_of_isOutput {i : Input} (h : i.isOutput = true) : i.ownUnits = 0 := by
  obtain ⟨hash, index, genesis, deposit, mint⟩ := i
  cases deposit <;> cases mint <;> simp_all [isOutput, ownUnits]

variable {asset : Hash} {runsOut : ValidationError} {i : Nat} {total c : Amount} {input : Input}
  {inputs : List Input} {spent : List SpentOutput}

theorem totalFrom_cons_of_isOutput (h : input.isOutput = true) (s : SpentOutput) :
    totalFrom asset runsOut i total (input :: inputs) (s :: spent) =
      if s.asset = asset then
        (Amount.ofUnits (total.units + s.amount.units)).mapError .amount >>= fun t =>
          totalFrom asset runsOut (i + 1) t inputs spent
      else .error (.assetMismatch i) := by
  obtain ⟨hash, index, genesis, deposit, mint⟩ := input
  obtain ⟨⟨rfl, rfl⟩, rfl⟩ : (genesis = [] ∧ deposit = none) ∧ mint = none := by
    simpa [isOutput] using h
  by_cases hs : s.asset = asset
  · simp only [totalFrom, hs, ne_eq, not_true_eq_false, if_true, if_false]
    rfl
  · simp only [totalFrom, hs, ne_eq, not_false_eq_true, if_true, if_false]
    rfl

theorem totalFrom_cons_of_not_isOutput (h : ¬ input.isOutput = true) :
    totalFrom asset runsOut i total (input :: inputs) spent =
      (Amount.ofUnits (total.units + input.ownUnits)).mapError .amount >>= fun t =>
        totalFrom asset runsOut (i + 1) t inputs spent := by
  obtain ⟨hash, index, genesis, deposit, mint⟩ := input
  cases deposit with
  | some d => rw [totalFrom.eq_def]; rfl
  | none =>
    cases mint with
    | some m => rw [totalFrom.eq_def]; rfl
    | none =>
      cases genesis with
      | nil => exact absurd rfl h
      | cons b genesis =>
        have hzero : Amount.ofUnits (total.units + 0) = .ok total := Amount.ofUnits_units total
        simp only [ownUnits, hzero, totalFrom]
        rfl

theorem asset_of_totalFrom (hlen : spent.length = inputs.countP isOutput)
    (h : totalFrom asset runsOut i total inputs spent = .ok c) : ∀ s ∈ spent, s.asset = asset := by
  induction inputs generalizing i total spent with
  | nil =>
    obtain rfl : spent = [] := List.eq_nil_of_length_eq_zero hlen
    exact nofun
  | cons input inputs ih =>
    rw [List.countP_cons] at hlen
    by_cases hinput : input.isOutput = true
    · rw [if_pos hinput] at hlen
      obtain ⟨s, spent, rfl⟩ := List.exists_cons_of_length_eq_add_one hlen
      rw [totalFrom_cons_of_isOutput hinput] at h
      by_cases hs : s.asset = asset
      · rw [if_pos hs] at h
        obtain ⟨_, _, hrest⟩ := bind_eq_ok_iff.mp h
        exact List.forall_mem_cons.mpr ⟨hs, ih (Nat.succ.inj hlen) hrest⟩
      · rw [if_neg hs] at h
        exact nomatch h
    · rw [if_neg hinput, Nat.add_zero] at hlen
      rw [totalFrom_cons_of_not_isOutput hinput] at h
      obtain ⟨_, _, hrest⟩ := bind_eq_ok_iff.mp h
      exact ih hlen hrest

/-- With an output of the asset to every input that spends one, adding up step by step is adding up
in the natural numbers and checking the sum once. -/
theorem totalFrom_eq (hlen : spent.length = inputs.countP isOutput)
    (hasset : ∀ s ∈ spent, s.asset = asset) :
    totalFrom asset runsOut i total inputs spent =
      (Amount.ofUnits
          (total.units + (totalOwnUnits inputs + SpentOutput.totalUnits spent))).mapError
        .amount := by
  induction inputs generalizing i total spent with
  | nil =>
    obtain rfl : spent = [] := List.eq_nil_of_length_eq_zero hlen
    have hsum : total.units + (totalOwnUnits [] + SpentOutput.totalUnits []) = total.units := rfl
    rw [hsum, Amount.ofUnits_units]
    rfl
  | cons input inputs ih =>
    rw [List.countP_cons] at hlen
    by_cases hinput : input.isOutput = true
    · rw [if_pos hinput] at hlen
      obtain ⟨s, spent, rfl⟩ := List.exists_cons_of_length_eq_add_one hlen
      obtain ⟨hs, hrest⟩ := List.forall_mem_cons.mp hasset
      have hsum : total.units +
            (totalOwnUnits (input :: inputs) + SpentOutput.totalUnits (s :: spent)) =
          total.units + s.amount.units + (totalOwnUnits inputs + SpentOutput.totalUnits spent) := by
        simp only [totalOwnUnits, SpentOutput.totalUnits, List.map_cons, List.sum_cons,
          ownUnits_of_isOutput hinput]
        omega
      rw [totalFrom_cons_of_isOutput hinput, if_pos hs, hsum,
        ← Amount.ofUnits_bind_ofUnits (total.units + s.amount.units), ← mapError_bind_mapError]
      simp only [ih (Nat.succ.inj hlen) hrest]
    · rw [if_neg hinput, Nat.add_zero] at hlen
      have hsum : total.units + (totalOwnUnits (input :: inputs) + SpentOutput.totalUnits spent) =
          total.units + input.ownUnits + (totalOwnUnits inputs + SpentOutput.totalUnits spent) := by
        simp only [totalOwnUnits, List.map_cons, List.sum_cons]
        omega
      rw [totalFrom_cons_of_not_isOutput hinput, hsum,
        ← Amount.ofUnits_bind_ofUnits (total.units + input.ownUnits), ← mapError_bind_mapError]
      simp only [ih hlen hasset]

theorem totalFrom_eq_ok_iff (hlen : spent.length = inputs.countP isOutput) :
    totalFrom asset runsOut i total inputs spent = .ok c ↔
      (∀ s ∈ spent, s.asset = asset) ∧
        c.units = total.units + (totalOwnUnits inputs + SpentOutput.totalUnits spent) := by
  constructor
  · intro h
    have hasset := asset_of_totalFrom hlen h
    rw [totalFrom_eq hlen hasset, mapError_eq_ok_iff, Amount.ofUnits_eq_ok_iff] at h
    exact ⟨hasset, h⟩
  · rintro ⟨hasset, hc⟩
    rw [totalFrom_eq hlen hasset, mapError_eq_ok_iff, Amount.ofUnits_eq_ok_iff]
    exact hc

end Input

namespace Transaction

theorem validateSpending_eq_ok_iff {tx : Transaction} {spent : List SpentOutput} :
    tx.validateSpending spent = .ok () ↔
      spent.length = tx.inputs.countP Input.isOutput ∧ (∀ s ∈ spent, s.asset = tx.asset) ∧
        Input.totalOwnUnits tx.inputs + SpentOutput.totalUnits spent =
          Output.totalUnits tx.outputs ∧
        Output.totalUnits tx.outputs < 2 ^ 256 := by
  have hout : (tx.outputs.map Output.amount).map Amount.units =
      tx.outputs.map fun o => o.amount.units := List.map_map
  rw [validateSpending]
  simp only [guard_bind_eq_ok_iff, guard_eq_ok_iff, bind_eq_ok_iff, mapError_eq_ok_iff, not_not]
  refine and_congr_right fun hlen => ?_
  simp only [Input.totalFrom_eq_ok_iff hlen, Amount.sum_eq_ok_iff, hout, Amount.zero, Nat.zero_add]
  constructor
  · rintro ⟨total, ⟨hasset, hin⟩, _, htotal, rfl⟩
    refine ⟨hasset, hin.symm.trans htotal, ?_⟩
    rw [Output.totalUnits, ← htotal]
    exact total.units_lt
  · rintro ⟨hasset, hbalance, hlt⟩
    exact ⟨⟨_, hlt⟩, ⟨hasset, hbalance.symm⟩, ⟨_, hlt⟩, rfl, rfl⟩

theorem validateSpending_eq_overflow_iff {tx : Transaction} {spent : List SpentOutput}
    (hlen : spent.length = tx.inputs.countP Input.isOutput)
    (hasset : ∀ s ∈ spent, s.asset = tx.asset) :
    tx.validateSpending spent = .error (.amount .overflow) ↔
      2 ^ 256 ≤ Input.totalOwnUnits tx.inputs + SpentOutput.totalUnits spent ∨
        2 ^ 256 ≤ Output.totalUnits tx.outputs := by
  have hout : (tx.outputs.map Output.amount).map Amount.units =
      tx.outputs.map fun o => o.amount.units := List.map_map
  rw [validateSpending, if_neg (not_not.mpr hlen), Input.totalFrom_eq hlen hasset, Amount.sum_eq,
    hout, ← Output.totalUnits]
  simp only [Amount.zero, Nat.zero_add]
  rcases Nat.lt_or_ge (Input.totalOwnUnits tx.inputs + SpentOutput.totalUnits spent) (2 ^ 256)
    with hin | hin
  · rw [Amount.ofUnits_of_lt hin]
    rcases Nat.lt_or_ge (Output.totalUnits tx.outputs) (2 ^ 256) with hlt | hle
    · rw [Amount.ofUnits_of_lt hlt]
      refine iff_of_false ?_ (not_or.mpr ⟨Nat.not_le.mpr hin, Nat.not_le.mpr hlt⟩)
      simp only [Except.mapError, bind, Except.bind]
      split <;>
      · intro h
        cases h
    · rw [Amount.ofUnits_of_le hle]
      exact iff_of_true rfl (.inr hle)
  · rw [Amount.ofUnits_of_le hin]
    exact iff_of_true rfl (.inl hin)

end Transaction

end KernelWallet
