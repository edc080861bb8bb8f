import KernelWallet.Proofs.Legacy
import KernelWallet.Proofs.Msgpack.Fits

/-! What is read in the msgpack form has no length above those that can be written. -/

namespace KernelWallet.Legacy

open Msgpack

theorem views_deposit :
    Views RawDeposit.ofValue? fun r => ∀ d, r.check = .ok d → d.FitsMsgpack := by
  intro v r hv hr d hd
  simp only [RawDeposit.ofValue?, Option.bind_eq_bind, Option.bind_eq_some_iff] at hr
  obtain ⟨f, hf, _, _, _, hkey, _, htx, _, _, _, _, hr⟩ := hr
  obtain rfl := Option.some.inj hr
  have hfields := Fields.views_ofValue 0 v f hv hf
  obtain ⟨_, _, hd⟩ := bind_eq_ok_iff.mp hd
  obtain ⟨_, _, hd⟩ := bind_eq_ok_iff.mp hd
  obtain rfl := Except.ok.inj hd
  have hkey' := Fields.of_required views_text hfields hkey
  have htx' := Fields.of_required views_text hfields htx
  exact { assetKey := hkey', transaction := htx' }

theorem views_mint :
    Views RawMint.ofValue? fun r =>
      ∀ m, r.check = .ok m → (Bytes.ofText m.group).length < 2 ^ 32 := by
  intro v r hv hr m hm
  simp only [RawMint.ofValue?, Option.bind_eq_bind, Option.bind_eq_some_iff] at hr
  obtain ⟨f, hf, _, hgroup, _, _, _, _, hr⟩ := hr
  obtain rfl := Option.some.inj hr
  obtain ⟨_, _, hm⟩ := bind_eq_ok_iff.mp hm
  obtain rfl := Except.ok.inj hm
  have hgroup' := Fields.of_required views_text (Fields.views_ofValue 0 v f hv hf) hgroup
  exact hgroup'

theorem views_withdrawal :
    Views RawWithdrawal.ofValue? fun r => ∀ w, r.check = .ok w → w.FitsMsgpack := by
  intro v r hv hr w hw
  simp only [RawWithdrawal.ofValue?, Option.bind_eq_bind, Option.bind_eq_some_iff] at hr
  obtain ⟨f, hf, _, _, _, hkey, _, haddress, _, htag, hr⟩ := hr
  obtain rfl := Option.some.inj hr
  have hfields := Fields.views_ofValue 0 v f hv hf
  obtain ⟨_, _, hw⟩ := bind_eq_ok_iff.mp hw
  obtain rfl := Except.ok.inj hw
  have hkey' := Fields.of_required views_text hfields hkey
  have haddress' := Fields.of_required views_text hfields haddress
  have htag' := Fields.of_required views_text hfields htag
  exact { assetKey := hkey', address := haddress', tag := htag' }

theorem views_input :
    Views RawInput.ofValue? fun r => ∀ i, r.check = .ok i → i.FitsMsgpack := by
  intro v r hv hr i hi
  simp only [RawInput.ofValue?, Option.bind_eq_bind, Option.bind_eq_some_iff] at hr
  obtain ⟨f, hf, _, _, _, _, _, hgenesis, _, hdeposit, _, hmint, hr⟩ := hr
  obtain rfl := Option.some.inj hr
  have hfields := Fields.views_ofValue 0 v f hv hf
  rw [RawInput.check] at hi
  obtain ⟨_, hi⟩ := guard_bind_eq_ok_iff.mp hi
  obtain ⟨_, hdeposits, hi⟩ := bind_eq_ok_iff.mp hi
  obtain ⟨_, hmints, hi⟩ := bind_eq_ok_iff.mp hi
  obtain ⟨_, _, hi⟩ := bind_eq_ok_iff.mp hi
  obtain rfl := Except.ok.inj hi
  have hgenesis' := Fields.of_required views_bytes hfields hgenesis
  have hdeposit' :=
    forall_mem_of_option_mapM (Fields.of_optional views_deposit hfields hdeposit) hdeposits
  have hmint' := forall_mem_of_option_mapM (Fields.of_optional views_mint hfields hmint) hmints
  exact { genesis := hgenesis', deposit := hdeposit', mint := hmint' }

theorem views_output :
    Views RawOutput.ofValue? fun r => ∀ o, r.check = .ok o → o.FitsMsgpack := by
  intro v r hv hr o ho
  simp only [RawOutput.ofValue?, Option.bind_eq_bind, Option.bind_eq_some_iff] at hr
  obtain ⟨f, hf, _, _, _, _, _, hkeys, _, hscript, _, _, _, hwithdrawal, hr⟩ := hr
  obtain rfl := Option.some.inj hr
  have hfields := Fields.views_ofValue 1 v f hv hf
  obtain ⟨_, hwithdrawals, ho⟩ := bind_eq_ok_iff.mp ho
  split at ho
  · obtain ⟨_, _, ho⟩ := bind_eq_ok_iff.mp ho
    obtain ⟨_, hread, ho⟩ := bind_eq_ok_iff.mp ho
    obtain ⟨_, _, ho⟩ := bind_eq_ok_iff.mp ho
    obtain rfl := Except.ok.inj ho
    have hkeys' := (Fields.of_required views_bytes.list hfields hkeys).1
    rw [(mapM_eq_ok_iff.mp hread).length_eq] at hkeys'
    have hscript' := Fields.of_required views_bytes hfields hscript
    have hwithdrawal' :=
      forall_mem_of_option_mapM (Fields.of_optional views_withdrawal hfields hwithdrawal)
        hwithdrawals
    exact { keys := hkeys', script := hscript', withdrawal := hwithdrawal' }
  · cases ho

theorem views_transaction :
    Views RawTransaction.ofValue? fun t => ∀ tx, t.check = .ok tx →
      tx.FitsMsgpack ∧ tx.signatures.FitsMsgpack := by
  intro v t hv ht tx htx
  simp only [RawTransaction.ofValue?, Option.bind_eq_bind, Option.bind_eq_some_iff] at ht
  obtain ⟨f, hf, _, _, _, _, _, hinputs, _, houtputs, _, hextra, lists, hlists, ht⟩ := ht
  obtain rfl := Option.some.inj ht
  have hfields := Fields.views_ofValue 1 v f hv hf
  obtain ⟨_, hinputs', htx⟩ := bind_eq_ok_iff.mp htx
  obtain ⟨_, houtputs', htx⟩ := bind_eq_ok_iff.mp htx
  obtain ⟨_, hgroups, htx⟩ := bind_eq_ok_iff.mp htx
  obtain ⟨_, _, htx⟩ := bind_eq_ok_iff.mp htx
  obtain rfl := Except.ok.inj htx
  obtain ⟨hinputCount, hinputs⟩ := Fields.of_required views_input.list hfields hinputs
  obtain ⟨houtputCount, houtputs⟩ := Fields.of_required views_output.list hfields houtputs
  have hextra' := Fields.of_required views_bytes hfields hextra
  rw [(mapM_eq_ok_iff.mp hinputs').length_eq] at hinputCount
  rw [(mapM_eq_ok_iff.mp houtputs').length_eq] at houtputCount
  have hbody := forall_mem_of_mapM hinputs hinputs'
  have hbody' := forall_mem_of_mapM houtputs houtputs'
  refine ⟨{
    inputCount := hinputCount, inputs := hbody, outputCount := houtputCount, outputs := hbody',
    extra := hextra' }, ?_⟩
  have hlistCount := Fields.of_optional views_bytes.list.list hfields hlists
  have hgroupCount := (mapM_eq_ok_iff.mp hgroups).length_eq
  rw [Signatures.FitsMsgpack, ← hgroupCount]
  cases lists with
  | none => exact Nat.two_pow_pos 32
  | some lists => exact (hlistCount lists rfl).1

/-- What was read can be written again as far as lengths go. -/
theorem fitsMsgpack_of_record? {b : Bytes} {t : RawTransaction} {tx : Transaction}
    (ht : record? b = some t) (htx : t.check = .ok tx) :
    tx.FitsMsgpack ∧ tx.signatures.FitsMsgpack := by
  obtain ⟨v, hrun, hview⟩ := record?_eq_some_iff.mp ht
  exact views_transaction v t (yields_readNested maxDepth b v [] hrun) hview tx htx

end KernelWallet.Legacy
