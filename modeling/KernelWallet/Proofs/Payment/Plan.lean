import KernelWallet.Payment.Plan
import KernelWallet.Proofs.Amount

/-! When a payment can be planned: the sum of its inputs, taken as a natural number, is an amount,
and covers the recipients. What is left of it is the change. -/

namespace KernelWallet

def Spendable.totalUnits (l : List Spendable) : Nat :=
  (l.map fun s => s.amount.units).sum

/-- The counts and lengths of a blueprint are in range, and all of its outputs give something. -/
structure Blueprint.Planned (b : Blueprint) : Prop where
  inputs_ne : b.inputs ≠ []
  inputs_le : b.inputs.length ≤ Limit.slices
  outputs_ne : b.outputs ≠ []
  outputs_le : b.outputs.length ≤ Limit.slices
  extra_le : b.extra.length ≤ Limit.extra
  references_le : b.references.length ≤ Limit.references
  units : ∀ out ∈ b.outputs, out.amount.units ≠ 0

namespace Payment

/-- What the recipients get. -/
def totalRequested (recipients : List (MixAddress × Amount)) : Nat :=
  (recipients.map fun r => r.2.units).sum

theorem totalFrom_eq_ok_iff {asset : Hash} {total c : Amount} {inputs : List Spendable} :
    totalFrom asset total inputs = .ok c ↔
      (∀ i ∈ inputs, i.asset = asset) ∧ c.units = total.units + Spendable.totalUnits inputs := by
  induction inputs generalizing total with
  | nil =>
    rw [totalFrom]
    exact ⟨fun h => ⟨nofun, by rw [Except.ok.inj h]; rfl⟩,
      fun h => congrArg _ (Amount.ext_units h.2.symm)⟩
  | cons input inputs ih =>
    simp only [totalFrom, guard_bind_eq_ok_iff, not_not, bind_eq_ok_iff, mapError_eq_ok_iff,
      Amount.add_eq_ok_iff, ih]
    rw [Amount.exists_units_iff]
    simp [Spendable.totalUnits, and_assoc, Nat.add_assoc]

/-- What has been asked for and what remains never come to more than the total, so the running sum
of what is asked for stays an amount. -/
theorem payFrom_eq_ok_iff {total requested remaining c : Amount} {position : Nat}
    {recipients : List (MixAddress × Amount)}
    (h : requested.units + remaining.units = total.units) :
    payFrom total position requested remaining recipients = .ok c ↔
      (∀ r ∈ recipients, r.2.units ≠ 0) ∧
        c.units + totalRequested recipients = remaining.units := by
  induction recipients generalizing position requested remaining with
  | nil =>
    rw [payFrom]
    exact ⟨fun h => ⟨nofun, by rw [Except.ok.inj h]; rfl⟩,
      fun h => congrArg _ (Amount.ext_units h.2.symm)⟩
  | cons r recipients ih =>
    obtain ⟨address, amount⟩ := r
    simp only [payFrom, guard_bind_eq_ok_iff, Amount.isZero_iff, bind_eq_ok_iff,
      mapError_eq_ok_iff, Amount.add_eq_ok_iff, Amount.sub_eq_ok_iff, List.forall_mem_cons,
      and_assoc]
    refine and_congr_right fun hzero => ?_
    have hsum : totalRequested ((address, amount) :: recipients) =
        amount.units + totalRequested recipients := rfl
    rw [hsum]
    constructor
    · rintro ⟨requested', hrequested, remaining', hremaining, hrest⟩
      have hinv : requested'.units + remaining'.units = total.units := by omega
      obtain ⟨hpos, hc⟩ := (ih hinv).mp hrest
      exact ⟨hpos, by omega⟩
    · rintro ⟨hpos, hc⟩
      have htotal := total.units_lt
      have hlt : requested.units + amount.units < 2 ^ 256 := by omega
      have hlt' : remaining.units - amount.units < 2 ^ 256 := by omega
      have hinv : requested.units + amount.units + (remaining.units - amount.units) =
          total.units := by omega
      refine ⟨⟨_, hlt⟩, rfl, ⟨_, hlt'⟩, ?_, (ih hinv).mpr ⟨hpos, ?_⟩⟩
      · exact Nat.sub_add_cancel (by omega)
      · change c.units + totalRequested recipients = remaining.units - amount.units
        omega

/-- Planning succeeds when every check does, and the blueprint pays the recipients and then what
remains. -/
theorem plan_eq_ok_iff {p : Payment} {b : Blueprint} :
    p.plan = .ok b ↔ ∃ first rest total remaining, p.inputs = first :: rest ∧
      p.recipients ≠ [] ∧ p.inputs.length ≤ Limit.slices ∧
      p.recipients.length + 1 ≤ Limit.slices ∧ p.memo.length ≤ Limit.extra ∧
      p.references.length ≤ Limit.references ∧
      totalFrom first.asset Amount.zero p.inputs = .ok total ∧
      payFrom total 0 Amount.zero total p.recipients = .ok remaining ∧
      b = { version := p.version, asset := first.asset, inputs := p.inputs,
            outputs := outputs p.recipients first.owner remaining, extra := p.memo,
            references := p.references, hint := p.hint.getD (defaultHint first) } := by
  rw [plan]
  cases hinputs : p.inputs with
  | nil => simp
  | cons first rest =>
    simp only [guard_bind_eq_ok_iff, bind_eq_ok_iff, Nat.not_lt, List.isEmpty_iff]
    constructor
    · rintro ⟨hrecipients, hin, hout, hmemo, hrefs, total, htotal, remaining, hremaining, hb⟩
      exact ⟨first, rest, total, remaining, rfl, hrecipients, hin, hout, hmemo, hrefs, htotal,
        hremaining, (Except.ok.inj hb).symm⟩
    · rintro ⟨first', rest', total, remaining, heq, hrecipients, hin, hout, hmemo, hrefs, htotal,
        hremaining, rfl⟩
      obtain ⟨rfl, rfl⟩ := List.cons.inj heq
      exact ⟨hrecipients, hin, hout, hmemo, hrefs, total, htotal, remaining, hremaining, rfl⟩

theorem version_of_plan {p : Payment} {b : Blueprint} (h : p.plan = .ok b) :
    b.version = p.version := by
  obtain ⟨first, rest, total, remaining, _, _, _, _, _, _, _, _, rfl⟩ := plan_eq_ok_iff.mp h
  rfl

theorem length_outputs_le (recipients : List (MixAddress × Amount)) (owner : MixAddress)
    (remaining : Amount) :
    (outputs recipients owner remaining).length ≤ recipients.length + 1 := by
  rw [outputs, List.length_append, List.length_map]
  split
  · exact Nat.le_succ _
  · exact Nat.le_refl _

theorem planned_of_plan {p : Payment} {b : Blueprint} (h : p.plan = .ok b) : b.Planned := by
  obtain ⟨first, rest, total, remaining, hinputs, hrecipients, hin, hout, hmemo, hrefs, _,
    hremaining, rfl⟩ := plan_eq_ok_iff.mp h
  obtain ⟨hunits, _⟩ := (payFrom_eq_ok_iff (Nat.zero_add _)).mp hremaining
  refine ⟨by simp [hinputs], hin, by simp [outputs, hrecipients],
    (length_outputs_le ..).trans hout, hmemo, hrefs, fun out hmem => ?_⟩
  rcases List.mem_append.mp hmem with hmem | hmem
  · obtain ⟨r, hr, rfl⟩ := List.mem_map.mp hmem
    exact hunits r hr
  · split at hmem
    · exact absurd hmem List.not_mem_nil
    · next hzero =>
      obtain rfl := List.mem_singleton.mp hmem
      exact mt Amount.isZero_iff.mpr hzero

/-! ## What can be paid -/

/-- What a payment needs to be made. The sums are of natural numbers and cannot overflow. -/
structure IsPayable (p : Payment) : Prop where
  inputs_pos : 1 ≤ p.inputs.length
  inputs_le : p.inputs.length ≤ 256
  recipients_pos : 1 ≤ p.recipients.length
  recipients_le : p.recipients.length ≤ 255
  memo_le : p.memo.length ≤ 256
  references_le : p.references.length ≤ 2
  one_asset : ∀ i ∈ p.inputs, ∀ j ∈ p.inputs, i.asset = j.asset
  total_lt : Spendable.totalUnits p.inputs < 2 ^ 256
  units : ∀ r ∈ p.recipients, r.2.units ≠ 0
  covered : totalRequested p.recipients ≤ Spendable.totalUnits p.inputs

theorem isPayable_of_plan {p : Payment} {b : Blueprint} (h : p.plan = .ok b) : p.IsPayable := by
  obtain ⟨first, rest, total, remaining, hinputs, hrecipients, hin, hout, hmemo, hrefs, htotal,
    hremaining, _⟩ := plan_eq_ok_iff.mp h
  obtain ⟨hassets, hunits⟩ := totalFrom_eq_ok_iff.mp htotal
  have hsum : total.units = Spendable.totalUnits p.inputs := hunits.trans (Nat.zero_add _)
  obtain ⟨hnonzero, hpaid⟩ := (payFrom_eq_ok_iff (Nat.zero_add _)).mp hremaining
  exact {
    inputs_pos := List.length_pos_iff.mpr (by simp [hinputs])
    inputs_le := hin
    recipients_pos := List.length_pos_iff.mpr hrecipients
    recipients_le := Nat.le_of_succ_le_succ hout
    memo_le := hmemo
    references_le := hrefs
    one_asset := fun i hi j hj => (hassets i hi).trans (hassets j hj).symm
    total_lt := hsum ▸ total.units_lt
    units := hnonzero
    covered := hsum ▸ Nat.le.intro ((Nat.add_comm ..).trans hpaid) }

/-- The two sums on the way are amounts: the one of the inputs by assumption, and what remains since
it is never more. -/
theorem IsPayable.exists_plan {p : Payment} (h : p.IsPayable) : ∃ b, p.plan = .ok b := by
  obtain ⟨first, rest, hinputs⟩ := List.exists_cons_of_length_pos h.inputs_pos
  have hassets : ∀ i ∈ p.inputs, i.asset = first.asset :=
    fun i hi => h.one_asset i hi first (hinputs ▸ List.mem_cons_self)
  let total : Amount := ⟨Spendable.totalUnits p.inputs, h.total_lt⟩
  have htotal : totalFrom first.asset Amount.zero p.inputs = .ok total :=
    totalFrom_eq_ok_iff.mpr ⟨hassets, (Nat.zero_add _).symm⟩
  have hlt : total.units - totalRequested p.recipients < 2 ^ 256 :=
    (Nat.sub_le ..).trans_lt total.units_lt
  have hremaining : payFrom total 0 Amount.zero total p.recipients = .ok ⟨_, hlt⟩ :=
    (payFrom_eq_ok_iff (Nat.zero_add _)).mpr ⟨h.units, Nat.sub_add_cancel h.covered⟩
  exact ⟨_, plan_eq_ok_iff.mpr ⟨first, rest, total, _, hinputs,
    List.length_pos_iff.mp h.recipients_pos, h.inputs_le, Nat.succ_le_succ h.recipients_le,
    h.memo_le, h.references_le, htotal, hremaining, rfl⟩⟩

/-- A payment is planned if the natural numbers allow it. Whatever the amounts, no sum on the way
overflows into a plan, and nothing that they allow is refused. -/
theorem exists_plan_iff_isPayable {p : Payment} : (∃ b, p.plan = .ok b) ↔ p.IsPayable := by
  constructor
  · rintro ⟨b, h⟩
    exact isPayable_of_plan h
  · exact IsPayable.exists_plan

end Payment

end KernelWallet
