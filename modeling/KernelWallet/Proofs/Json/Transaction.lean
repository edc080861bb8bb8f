import KernelWallet.Proofs.Amount.Decimal
import KernelWallet.Proofs.Base64
import KernelWallet.Proofs.Hex
import KernelWallet.Proofs.Json
import KernelWallet.Proofs.Signers
import KernelWallet.Transaction.Json

/-! The JSON that a transaction is written as reads back as the transaction, part by part. -/

namespace KernelWallet

open Json

/-! ## Texts and numbers -/

theorem Key.ofJson?_toJson (k : Key) : ofJson? k.toJson = some k :=
  textOf?_str_eq_some_iff.mpr (ofHexExact_toHex k)

theorem Hash.ofJson?_toJson (h : Hash) : ofJson? h.toJson = some h :=
  textOf?_str_eq_some_iff.mpr (ofHex_toHex h)

theorem Signature.ofJson?_toJson (s : Signature) : ofJson? s.toJson = some s :=
  textOf?_str_eq_some_iff.mpr (ofHex_toHex s)

theorem Amount.ofJson?_toJson (a : Amount) : ofJson? a.toJson = some a :=
  textOf?_str_eq_some_iff.mpr (ofText_toText a)

theorem Hex.ofJson?_encode (b : Bytes) : ofJson? (.str (encode b)) = some b :=
  decode?_encode b

theorem Script.ofJson?_toJson (s : Script) : ofJson? s.toJson = some s := by
  rw [ofJson?, toJson, toText, Hex.ofJson?_encode]
  rfl

theorem OutputType.ofJson?_toJson (t : OutputType) : ofJson? t.toJson = some t := by
  rw [ofJson?, toJson, uint8?_nat]
  exact ofByte?_toByte t

theorem Extra.ofJson?_toJson (extra : Bytes) : ofJson? (toJson extra) = some extra := by
  have htext : ofText? (Base64.encode extra) = some extra := by
    rw [ofText?, Base64.decode?_encode]
  exact htext

/-! ## Inputs -/

theorem Deposit.ofJson?_toJson (d : Deposit) : ofJson? d.toJson = some d := by
  rw [ofJson?, toJson, record?_bind (by simp),
    Record.required_bind (by rfl) (Hash.ofJson?_toJson d.chain),
    Record.required_bind (by rfl) (text?_str d.assetKey),
    Record.required_bind (by rfl) (text?_str d.transaction),
    Record.required_bind (by rfl) (uint64?_nat d.index),
    Record.required_bind (by rfl) (Amount.ofJson?_toJson d.amount)]
  rfl

theorem Mint.ofJson?_toJson (m : Mint) : ofJson? m.toJson = some m := by
  rw [ofJson?, toJson, record?_bind (by simp),
    Record.required_bind (by rfl) (text?_str m.group),
    Record.required_bind (by rfl) (uint64?_nat m.batch),
    Record.required_bind (by rfl) (Amount.ofJson?_toJson m.amount)]
  rfl

theorem Input.ofJson?_toJson (i : Input) : ofJson? i.toJson = some i := by
  have hdeposit := nullable?_option Deposit.ofJson?_toJson (by simp [Deposit.toJson]) i.deposit
  have hmint := nullable?_option Mint.ofJson?_toJson (by simp [Mint.toJson]) i.mint
  rw [ofJson?, toJson, record?_bind (by simp),
    Record.required_bind (by rfl) (Hash.ofJson?_toJson i.hash),
    Record.required_bind (by rfl) (uint8?_nat i.index),
    Record.optional_bind (by rfl) (Hex.ofJson?_encode i.genesis),
    Record.optional_bind (by rfl) hdeposit, Record.optional_bind (by rfl) hmint]
  rfl

/-! ## Outputs -/

theorem Withdrawal.ofJson?_toJson (w : Withdrawal) : ofJson? w.toJson = some w := by
  rw [ofJson?, toJson, record?_bind (by simp),
    Record.optional_bind (by rfl) (Hash.ofJson?_toJson w.chain),
    Record.optional_bind (by rfl) (text?_str w.assetKey),
    Record.required_bind (by rfl) (text?_str w.address),
    Record.optional_bind (by rfl) (text?_str w.tag)]
  rfl

theorem Output.ofJson?_toJson (o : Output) : ofJson? o.toJson = some o := by
  obtain ⟨kind, amount, keys, mask, script, withdrawal⟩ := o
  rw [ofJson?, toJson, record?_bind (by cases withdrawal <;> simp),
    Record.required_bind (by rfl) (OutputType.ofJson?_toJson kind),
    Record.required_bind (by rfl) (Amount.ofJson?_toJson amount),
    Record.required_bind (by rfl) (list?_list Key.ofJson?_toJson keys),
    Record.required_bind (by rfl) (Key.ofJson?_toJson mask),
    Record.required_bind (by rfl) (Script.ofJson?_toJson script)]
  cases withdrawal with
  | none => rfl
  | some w =>
    have hread : nullable? Withdrawal.ofJson? w.toJson = some (some w) :=
      nullable?_option Withdrawal.ofJson?_toJson (by simp [Withdrawal.toJson]) (some w)
    rw [Record.optional_bind (by rfl) hread]
    rfl

/-! ## Signatures -/

theorem SignerMap.entry?_toString (signer : UInt16) (sig : Signature) :
    entry? (toString signer.toNat, sig.toJson) = some (signer, sig) := by
  have hlt : signer.toNat < 2 ^ 64 := signer.toNat_lt.trans (by decide)
  have hname : Number.ofChars? (toString signer.toNat).toList = some (nat signer.toNat) := by
    rw [Nat.toString_eq_ofList_toDigits, String.toList_ofList, Number.ofChars?_toDigits hlt]
    rfl
  unfold entry?
  rw [hname, Signature.ofJson?_toJson, Option.bind_eq_bind, Option.bind_some, uint16?_nat]
  rfl

theorem SignerMap.ofJson?_toJson (m : SignerMap) : ofJson? m.toJson = some m := by
  have hentries := mapM_map_eq_some (fun e => entry?_toString e.1 e.2) m.entries
  rw [toJson, ofJson?, hentries, Option.map_some, ofList_entries]

theorem AggregatedSignature.ofJson?_toJson (a : AggregatedSignature) :
    ofJson? a.toJson = some a := by
  rw [ofJson?, toJson, record?_bind (by simp),
    Record.required_bind (by rfl) (Signature.ofJson?_toJson a.signature),
    Record.required_bind (by rfl) (list?_list uint16?_nat a.signers.toList),
    SignerSet.ofList_toList]
  rfl

theorem Signatures.ofJson?_toJson (s : Signatures) : ofJson? s.toJson = some s := by
  cases s with
  | groups gs => simp [ofJson?, toJson, variant?, list?_list SignerMap.ofJson?_toJson]
  | aggregated a => simp [ofJson?, toJson, variant?, AggregatedSignature.ofJson?_toJson]

/-! ## Transactions -/

theorem Transaction.ofJson?_toJson (tx : Transaction) : ofJson? tx.toJson = some tx := by
  rw [ofJson?, toJson, record?_bind (by simp),
    Record.required_bind (by rfl) (uint8?_nat tx.version),
    Record.required_bind (by rfl) (Hash.ofJson?_toJson tx.asset),
    Record.required_bind (by rfl) (list?_list Input.ofJson?_toJson tx.inputs),
    Record.required_bind (by rfl) (list?_list Output.ofJson?_toJson tx.outputs),
    Record.optional_bind (by rfl) (list?_list Hash.ofJson?_toJson tx.references),
    Record.optional_bind (by rfl) (Extra.ofJson?_toJson tx.extra),
    Record.optional_bind (by rfl) (Signatures.ofJson?_toJson tx.signatures)]
  rfl

end KernelWallet
