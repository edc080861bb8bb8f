import KernelWallet.Proofs.Curve
import KernelWallet.Proofs.Payment.Blueprint
import KernelWallet.Proofs.Spending

/-! A payment that is built pays every recipient in full and gives the rest back to the owner of its
first input, so that the checker of balances accepts it. -/

namespace KernelWallet

theorem Output.totalUnits_append (l l' : List Output) :
    totalUnits (l ++ l') = totalUnits l + totalUnits l' := by
  simp [totalUnits]

namespace Spendable

theorem countP_isOutput_map_input (l : List Spendable) :
    (l.map input).countP Input.isOutput = l.length := by
  rw [List.countP_eq_length.mpr, List.length_map]
  intro i hi
  obtain ⟨s, _, rfl⟩ := List.mem_map.mp hi
  rfl

theorem totalOwnUnits_map_input (l : List Spendable) : Input.totalOwnUnits (l.map input) = 0 := by
  induction l with
  | nil => rfl
  | cons s l ih => exact (Nat.zero_add _).trans ih

theorem totalUnits_map_spent (l : List Spendable) :
    SpentOutput.totalUnits (l.map spent) = totalUnits l := by
  rw [SpentOutput.totalUnits, List.map_map]
  rfl

/-- A transaction that spends outputs of its asset and gives as much as they hold is balanced. -/
theorem validateSpending_eq_ok {tx : Transaction} {l : List Spendable}
    (hinputs : tx.inputs = l.map input) (hasset : ∀ s ∈ l, s.asset = tx.asset)
    (hsum : Output.totalUnits tx.outputs = totalUnits l) (hlt : totalUnits l < 2 ^ 256) :
    tx.validateSpending (l.map spent) = .ok () := by
  rw [Transaction.validateSpending_eq_ok_iff, hinputs]
  refine ⟨?_, ?_, ?_, ?_⟩
  · rw [List.length_map, countP_isOutput_map_input]
  · intro x hx
    obtain ⟨s, hs, rfl⟩ := List.mem_map.mp hx
    exact hasset s hs
  · rw [totalOwnUnits_map_input, totalUnits_map_spent, hsum, Nat.zero_add]
  · rwa [hsum]

end Spendable

namespace Payment

theorem totalUnits_of_pays {paid : List Output} {recipients : List (MixAddress × Amount)}
    (h : List.Forall₂ (fun o r => o.Pays r.1 r.2.units) paid recipients) :
    Output.totalUnits paid = totalRequested recipients := by
  induction h with
  | nil => rfl
  | cons hpays _ ih =>
    simp only [Output.totalUnits, totalRequested, List.map_cons, List.sum_cons] at ih ⊢
    rw [hpays.units, ih]

/-- The change gives back so many units, in one output or in none if there is nothing to give. -/
def IsChange (change : List Output) (owner : MixAddress) (units : Nat) : Prop :=
  if units = 0 then change = [] else ∃ o, change = [o] ∧ o.Pays owner units

theorem totalUnits_of_isChange {change : List Output} {owner : MixAddress} {units : Nat}
    (h : IsChange change owner units) : Output.totalUnits change = units := by
  by_cases hzero : units = 0
  · rw [IsChange, if_pos hzero] at h
    rw [h, hzero]
    rfl
  · rw [IsChange, if_neg hzero] at h
    obtain ⟨o, rfl, hpays⟩ := h
    exact hpays.units

/-- The outputs made to plan are those of the recipients and then the change, if there is any. -/
theorem exists_paid_of_outputs {made : List Output} {recipients : List (MixAddress × Amount)}
    {owner : MixAddress} {remaining : Amount}
    (h : List.Forall₂ (fun o out => o.Pays out.address out.amount.units) made
      (outputs recipients owner remaining)) :
    ∃ paid change, made = paid ++ change ∧
      List.Forall₂ (fun o r => o.Pays r.1 r.2.units) paid recipients ∧
      IsChange change owner remaining.units := by
  let sent : List PlannedOutput := recipients.map fun r => ⟨r.1, r.2, false⟩
  have hpaid := List.forall₂_take_append made sent _ h
  have hchange := List.forall₂_drop_append made sent _ h
  refine ⟨made.take sent.length, made.drop sent.length, (List.take_append_drop ..).symm, ?_, ?_⟩
  · exact List.forall₂_map_right_iff.mp hpaid
  · by_cases hzero : remaining.units = 0
    · rw [if_pos (Amount.isZero_iff.mpr hzero)] at hchange
      rw [IsChange, if_pos hzero]
      exact List.forall₂_nil_right_iff.mp hchange
    · rw [if_neg (mt Amount.isZero_iff.mp hzero)] at hchange
      rw [IsChange, if_neg hzero]
      obtain ⟨o, rest, hpays, hrest, heq⟩ := List.forall₂_cons_right_iff.mp hchange
      obtain rfl := List.forall₂_nil_right_iff.mp hrest
      exact ⟨o, heq, hpays⟩

/-- The transaction of a payment spends its inputs in order, pays its recipients in order, gives
the difference back in one more output if there is one, and passes the check of its balance. -/
theorem balance_of_build {E : Curve} {p : Payment} {fetched : List GhostKeys} {e : Entropy}
    {s : Session} (h : p.build E fetched e = .ok s) :
    ∃ first rest, p.inputs = first :: rest ∧ s.tx.inputs = p.inputs.map Spendable.input ∧
      (∃ paid change, s.tx.outputs = paid ++ change ∧
        List.Forall₂ (fun o r => o.Pays r.1 r.2.units) paid p.recipients ∧
        totalRequested p.recipients ≤ Spendable.totalUnits p.inputs ∧
        if totalRequested p.recipients < Spendable.totalUnits p.inputs then
          ∃ o, change = [o] ∧ o.Pays first.owner
            (Spendable.totalUnits p.inputs - totalRequested p.recipients)
        else change = []) ∧
      s.tx.validateSpending (p.inputs.map Spendable.spent) = .ok () := by
  obtain ⟨b, hplan, hbuild⟩ := bind_eq_ok_iff.mp h
  obtain ⟨first, rest, total, remaining, hinputs, _, _, _, _, _, htotal, hremaining, rfl⟩ :=
    plan_eq_ok_iff.mp hplan
  obtain ⟨_, made, hash, hmade, _, _, rfl⟩ := Blueprint.build_eq_ok_iff.mp hbuild
  obtain ⟨hasset, hin⟩ := totalFrom_eq_ok_iff.mp htotal
  obtain ⟨_, hout⟩ := (payFrom_eq_ok_iff (Nat.zero_add _)).mp hremaining
  obtain ⟨paid, change, rfl, hpaid, hchange⟩ :=
    exists_paid_of_outputs (Blueprint.pays_of_outputsFrom hmade)
  have hspent : total.units = Spendable.totalUnits p.inputs := hin.trans (Nat.zero_add _)
  have hback : remaining.units =
      Spendable.totalUnits p.inputs - totalRequested p.recipients := by omega
  refine ⟨first, rest, hinputs, rfl, ⟨paid, change, rfl, hpaid, by omega, ?_⟩, ?_⟩
  · rw [hback, IsChange] at hchange
    split
    · next hlt => rwa [if_neg (by omega)] at hchange
    · next hnlt => rwa [if_pos (by omega)] at hchange
  · refine Spendable.validateSpending_eq_ok rfl hasset ?_ (hspent ▸ total.units_lt)
    change Output.totalUnits (paid ++ change) = Spendable.totalUnits p.inputs
    rw [Output.totalUnits_append, totalUnits_of_pays hpaid, totalUnits_of_isChange hchange]
    omega

/-- Two outputs of one user, 3 and 4 units, that pay 5 to two others. -/
def splitting (mask : Key) (keys : List Key) : Payment where
  inputs := [
    { transaction := Hash.zero, index := 0, version := 5, asset := Hash.zero,
      amount := Amount.ofUInt64 3, mask, keys, owner := MixAddress.alone },
    { transaction := Hash.zero, index := 1, version := 5, asset := Hash.zero,
      amount := Amount.ofUInt64 4, mask, keys, owner := MixAddress.alone }]
  recipients := [(MixAddress.pair, Amount.ofUInt64 5)]

/-- The transaction of `splitting` when all ghost keys are the same. -/
def splitTransaction (key : Key) : Transaction where
  version := 5
  asset := Hash.zero
  inputs := [Input.ofOutput Hash.zero 0, Input.ofOutput Hash.zero 1]
  outputs := [
    Output.ofKeys (Amount.ofUInt64 5) [key, key] key (Script.ofThreshold 2),
    Output.ofKeys (Amount.ofUInt64 2) [key] key (Script.ofThreshold 1)]
  signatures := .groups [SignerMap.empty, SignerMap.empty]

theorem build_splitting {E : Curve} {key : Key} (hkey : key.isPoint E = true) (mask : Key)
    (keys : List Key) (e : Entropy) :
    ∃ hash, (splitting mask keys).build E [⟨key, [key, key]⟩, ⟨key, [key]⟩] e =
      .ok ⟨splitTransaction key, .built, some hash⟩ := by
  obtain ⟨b, hb, houtputs, hdistinct, htx⟩ : ∃ b, (splitting mask keys).plan = .ok b ∧
      b.outputs = [⟨MixAddress.pair, Amount.ofUInt64 5, false⟩,
          ⟨MixAddress.alone, Amount.ofUInt64 2, true⟩] ∧
      (b.inputs.map fun i => (i.transaction, i.index)) = [(Hash.zero, 0), (Hash.zero, 1)] ∧
      b.transaction (splitTransaction key).outputs = splitTransaction key :=
    ⟨_, rfl, rfl, rfl, rfl⟩
  have hversion : b.version = 5 := version_of_plan hb
  let fetched : List GhostKeys := [⟨key, [key, key]⟩, ⟨key, [key]⟩]
  have hmade : Blueprint.outputsFrom E b.version (b.outputs.countP (·.address.uuids?.isSome))
      fetched e 0 b.outputs = .ok (splitTransaction key).outputs := by
    rw [houtputs]
    rfl
  have hcount : fetched.length = b.outputs.countP (·.address.uuids?.isSome) := by
    rw [houtputs]
    rfl
  have hpoints : ∀ o ∈ (splitTransaction key).outputs, ∀ k ∈ o.mask :: o.keys,
      k.isPoint E = true := by
    simp [splitTransaction, Output.ofKeys, hkey]
  obtain ⟨hash, hbuild⟩ := Blueprint.exists_build_of_outputsFrom (planned_of_plan hb)
    (hversion ▸ rfl) (hdistinct ▸ by decide) (.inr (hversion ▸ by decide)) hcount hmade hpoints
  refine ⟨hash, bind_eq_ok_iff.mpr ⟨b, hb, ?_⟩⟩
  rw [hbuild, htx]

/-- `splitting`, where each output that is spent has so many copies of the key of one scalar. -/
def splittingOf (E : Curve) (a : Scalar) (copies : Nat) : Payment :=
  splitting Key.zero (List.replicate copies (Key.ofBaseMultiple E a))

theorem exists_build_splittingOf (a : Scalar) (copies : Nat) :
    ∃ fetched e ghost hash, (splittingOf Curve.ed25519 a copies).build Curve.ed25519 fetched e =
      .ok ⟨splitTransaction ghost, .built, some hash⟩ := by
  obtain ⟨hash, hbuild⟩ := build_splitting Key.isPoint_zero_ed25519 Key.zero
    (List.replicate copies (Key.ofBaseMultiple Curve.ed25519 a)) (Entropy.cycle [])
  exact ⟨_, _, _, hash, hbuild⟩

theorem balance_of_build_splitting :
    ∃ fetched e s, (splitting Key.zero []).build Curve.ed25519 fetched e = .ok s ∧
      (∃ paid change, s.tx.outputs = paid ++ [change] ∧
        List.Forall₂ (fun o r => o.Pays r.1 r.2.units) paid (splitting Key.zero []).recipients ∧
        change.Pays MixAddress.alone 2) ∧
      s.tx.validateSpending ((splitting Key.zero []).inputs.map Spendable.spent) = .ok () := by
  have hkey := Key.isPoint_zero_ed25519
  obtain ⟨hash, hbuild⟩ := build_splitting hkey Key.zero [] (Entropy.cycle [])
  obtain ⟨first, rest, hinputs, _, ⟨paid, change, houtputs, hpaid, _, hchange⟩, hspending⟩ :=
    balance_of_build hbuild
  obtain ⟨rfl, _⟩ := List.cons.inj hinputs
  rw [if_pos (by decide)] at hchange
  obtain ⟨o, rfl, ho⟩ := hchange
  exact ⟨_, _, _, hbuild, ⟨paid, o, houtputs, hpaid, ho⟩, hspending⟩

end Payment

end KernelWallet
