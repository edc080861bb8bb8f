import KernelWallet.Curve.Ed25519
import KernelWallet.Proofs.Spending
import KernelWallet.Proofs.Validation.Acceptance

/-! Accepted transactions pay out exactly what they take in. An accepted input is a deposit, a mint
or neither, so that all deposits and all mints count, and each of them once. -/

namespace KernelWallet

def Deposit.totalUnits (l : List Deposit) : Nat :=
  (l.map fun d => d.amount.units).sum

def Mint.totalUnits (l : List Mint) : Nat :=
  (l.map fun m => m.amount.units).sum

namespace Input

variable {i : Input} {inputs : List Input}

instance : DecidablePred SpendsOutput :=
  fun _ => inferInstanceAs (Decidable (_ ∧ _ ∧ _))

theorem isOutput_eq_decide (i : Input) : i.isOutput = decide i.SpendsOutput := by
  obtain ⟨hash, index, genesis, deposit, mint⟩ := i
  cases genesis <;> cases deposit <;> cases mint <;> rfl

theorem totalOwnUnits_eq (h : ∀ i ∈ inputs, i.IsExclusive) :
    totalOwnUnits inputs =
      Deposit.totalUnits (inputs.filterMap deposit) + Mint.totalUnits (inputs.filterMap mint) := by
  induction inputs with
  | nil => rfl
  | cons input inputs ih =>
    obtain ⟨hinput, hrest⟩ := List.forall_mem_cons.mp h
    have hsum := ih hrest
    obtain ⟨hash, index, genesis, deposit, mint⟩ := input
    cases deposit with
    | some d =>
      obtain rfl : mint = none := hinput.deposit nofun
      simp only [totalOwnUnits, Deposit.totalUnits, Mint.totalUnits, ownUnits, List.map_cons,
        List.sum_cons, List.filterMap_cons] at hsum ⊢
      omega
    | none =>
      cases mint <;>
        simp only [totalOwnUnits, Deposit.totalUnits, Mint.totalUnits, ownUnits, List.map_cons,
          List.sum_cons, List.filterMap_cons] at hsum ⊢ <;>
        omega

end Input

namespace Transaction

variable {E : Curve} {tx : Transaction}

/-- One output of the asset to every input that spends one. -/
structure IsSpending (tx : Transaction) (spent : List SpentOutput) : Prop where
  length : spent.length = tx.inputs.countP fun i => i.SpendsOutput
  asset : ∀ s ∈ spent, s.asset = tx.asset

/-- What comes in from the outputs that are spent, from deposits and from mints. -/
def unitsIn (tx : Transaction) (spent : List SpentOutput) : Nat :=
  SpentOutput.totalUnits spent + Deposit.totalUnits (tx.inputs.filterMap Input.deposit) +
    Mint.totalUnits (tx.inputs.filterMap Input.mint)

def unitsOut (tx : Transaction) : Nat :=
  Output.totalUnits tx.outputs

theorem unitsIn_eq (h : ∀ i ∈ tx.inputs, i.IsExclusive) (spent : List SpentOutput) :
    Input.totalOwnUnits tx.inputs + SpentOutput.totalUnits spent = tx.unitsIn spent := by
  rw [Input.totalOwnUnits_eq h, unitsIn, Nat.add_comm, Nat.add_assoc]

/-- Of an accepted transaction the outputs that it spends are accepted exactly if they come with its
deposits and mints to the total of its outputs, in the natural numbers, and this total is an amount.
A total that is no amount is told as an overflow. -/
theorem validateSpending_iff_of_validate (h : tx.validate E = .ok ()) (spent : List SpentOutput) :
    (tx.validateSpending spent = .ok () ↔
      tx.IsSpending spent ∧ tx.unitsIn spent = tx.unitsOut ∧ tx.unitsOut < 2 ^ 256) ∧
    (tx.IsSpending spent →
      (tx.validateSpending spent = .error (.amount .overflow) ↔
        2 ^ 256 ≤ tx.unitsIn spent ∨ 2 ^ 256 ≤ tx.unitsOut)) := by
  have hin := unitsIn_eq (wellFormed_iff_isAcceptable.mp (validate_eq_ok_iff.mp h)).exclusive spent
  have hcount : (tx.inputs.countP fun i => i.SpendsOutput) = tx.inputs.countP Input.isOutput :=
    List.countP_congr fun i _ => by rw [Input.isOutput_eq_decide]
  constructor
  · rw [validateSpending_eq_ok_iff, hin, ← hcount]
    constructor
    · rintro ⟨hlen, hasset, hbalance⟩
      exact ⟨⟨hlen, hasset⟩, hbalance⟩
    · rintro ⟨hspending, hbalance⟩
      exact ⟨hspending.length, hspending.asset, hbalance⟩
  · intro hspending
    rw [validateSpending_eq_overflow_iff (hspending.length.trans hcount) hspending.asset, hin]
    rfl

/-- Inputs of all four kinds, with outputs spent before and after a mint. -/
def interleaved : Transaction where
  version := 1
  asset := Hash.zero
  inputs := [Input.ofDeposit ⟨Hash.zero, "a", "", 5, Amount.ofUInt64 5⟩,
    Input.ofOutput Hash.zero 0, Input.ofMint ⟨"m", 1, Amount.ofUInt64 7⟩, Input.ofGenesis [1],
    Input.ofOutput Hash.zero 1]
  outputs := [Output.ofWithdrawal (Amount.ofUInt64 20) ⟨Hash.zero, "k", "to", ""⟩]

def spentUnits (units : Amount) : SpentOutput :=
  { asset := Hash.zero, amount := units, keys := [], script := Script.empty }

theorem isSpending_interleaved (a b : Amount) :
    interleaved.IsSpending [spentUnits a, spentUnits b] where
  length := rfl
  asset := List.forall_mem_cons.mpr ⟨rfl, List.forall_mem_singleton.mpr rfl⟩

/-- The second pair balances modulo 2^256. -/
theorem validateSpending_iff_of_validate_interleaved :
    interleaved.validate Curve.ed25519 = .ok () ∧
      interleaved.validateSpending
        [spentUnits (Amount.ofUInt64 3), spentUnits (Amount.ofUInt64 5)] = .ok () ∧
      interleaved.validateSpending
          [spentUnits (Amount.ofUInt64 9), spentUnits ⟨2 ^ 256 - 1, by decide⟩] =
        .error (.amount .overflow) := by
  have hvalid : interleaved.validate Curve.ed25519 = .ok () := rfl
  have hbalance := (validateSpending_iff_of_validate hvalid
    [spentUnits (Amount.ofUInt64 3), spentUnits (Amount.ofUInt64 5)]).1
  have hoverflow := (validateSpending_iff_of_validate hvalid
    [spentUnits (Amount.ofUInt64 9), spentUnits ⟨2 ^ 256 - 1, by decide⟩]).2
  exact ⟨hvalid, hbalance.mpr ⟨isSpending_interleaved _ _, by decide, by decide⟩,
    (hoverflow (isSpending_interleaved _ _)).mpr (.inl (by decide))⟩

end Transaction

end KernelWallet
