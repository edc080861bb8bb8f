import KernelWallet.Proofs.Address.Mix
import KernelWallet.Proofs.Json.Transaction

/-! The JSON that a blueprint, with the outputs it spends and those it plans, is written as reads
back as the blueprint. The addresses in it are texts. -/

namespace KernelWallet

open Json

theorem MixAddress.ofJson?_toJson (a : MixAddress) : ofJson? a.toJson = some a :=
  ofJson?_eq_some_iff.mpr rfl

theorem Spendable.ofJson?_toJson (s : Spendable) : ofJson? s.toJson = some s := by
  rw [ofJson?, toJson, record?_bind (by simp),
    Record.required_bind (by rfl) (Hash.ofJson?_toJson s.transaction),
    Record.required_bind (by rfl) (uint8?_nat s.index),
    Record.required_bind (by rfl) (uint8?_nat s.version),
    Record.required_bind (by rfl) (Hash.ofJson?_toJson s.asset),
    Record.required_bind (by rfl) (Amount.ofJson?_toJson s.amount),
    Record.required_bind (by rfl) (Key.ofJson?_toJson s.mask),
    Record.required_bind (by rfl) (list?_list Key.ofJson?_toJson s.keys),
    Record.required_bind (by rfl) (MixAddress.ofJson?_toJson s.owner)]
  rfl

namespace PlannedOutput

def content (o : PlannedOutput) : Json :=
  .obj [((labels o.isChange).2, o.address.toJson), ("amount", o.amount.toJson)]

theorem variant?_toJson (o : PlannedOutput) :
    o.toJson.variant? = some ((labels o.isChange).1, o.content) := rfl

theorem ofContent?_content (o : PlannedOutput) : ofContent? o.isChange o.content = some o := by
  have hnames : (labels o.isChange).2 ≠ "amount" := by
    cases o.isChange <;> simp [labels]
  rw [content, ofContent?, record?_bind (by simp [hnames]),
    Record.required_bind List.lookup_cons_self (MixAddress.ofJson?_toJson o.address),
    Record.required_bind (by simp [List.lookup_cons, beq_false_of_ne hnames.symm])
      (Amount.ofJson?_toJson o.amount)]
  rfl

theorem ofJson?_toJson (o : PlannedOutput) : ofJson? o.toJson = some o := by
  have hcontent := ofContent?_content o
  rw [ofJson?, variant?_toJson]
  cases hc : o.isChange with
  | false =>
    rw [hc] at hcontent
    simpa [labels] using hcontent
  | true =>
    rw [hc] at hcontent
    simpa [labels] using hcontent

end PlannedOutput

theorem Blueprint.ofJson?_toJson (b : Blueprint) : ofJson? b.toJson = some b := by
  rw [ofJson?, toJson, record?_bind (by simp),
    Record.required_bind (by rfl) (uint8?_nat b.version),
    Record.required_bind (by rfl) (Hash.ofJson?_toJson b.asset),
    Record.required_bind (by rfl) (list?_list Spendable.ofJson?_toJson b.inputs),
    Record.required_bind (by rfl) (list?_list PlannedOutput.ofJson?_toJson b.outputs),
    Record.required_bind (by rfl) (Extra.ofJson?_toJson b.extra),
    Record.required_bind (by rfl) (list?_list Hash.ofJson?_toJson b.references),
    Record.required_bind (by rfl) (text?_str b.hint)]
  rfl

theorem transaction_spendable_blueprint_readBack :
    (∀ tx : Transaction, Transaction.ofJson? tx.toJson = some tx) ∧
      (∀ s : Spendable, Spendable.ofJson? s.toJson = some s) ∧
      ∀ b : Blueprint, Blueprint.ofJson? b.toJson = some b :=
  ⟨Transaction.ofJson?_toJson, Spendable.ofJson?_toJson, Blueprint.ofJson?_toJson⟩

end KernelWallet
