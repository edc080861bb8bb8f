import KernelWallet.Proofs.Amount.Bytes
import KernelWallet.Proofs.Msgpack
import KernelWallet.Proofs.SignerMap
import KernelWallet.Transaction.Legacy

/-! Reading the msgpack form gives back what was written, as long as every length in it is below
2^32. -/

namespace KernelWallet

/-- Every length that is written of a deposit has room in four bytes. -/
structure Deposit.FitsMsgpack (d : Deposit) : Prop where
  assetKey : (Bytes.ofText d.assetKey).length < 2 ^ 32
  transaction : (Bytes.ofText d.transaction).length < 2 ^ 32

structure Input.FitsMsgpack (i : Input) : Prop where
  genesis : i.genesis.length < 2 ^ 32
  deposit : ∀ d ∈ i.deposit, d.FitsMsgpack
  mint : ∀ m ∈ i.mint, (Bytes.ofText m.group).length < 2 ^ 32

structure Withdrawal.FitsMsgpack (w : Withdrawal) : Prop where
  assetKey : (Bytes.ofText w.assetKey).length < 2 ^ 32
  address : (Bytes.ofText w.address).length < 2 ^ 32
  tag : (Bytes.ofText w.tag).length < 2 ^ 32

structure Output.FitsMsgpack (o : Output) : Prop where
  keys : o.keys.length < 2 ^ 32
  script : o.script.bytes.length < 2 ^ 32
  withdrawal : ∀ w ∈ o.withdrawal, w.FitsMsgpack

/-- Every length that is written of a transaction without its signatures has room in four bytes. -/
structure Transaction.FitsMsgpack (tx : Transaction) : Prop where
  inputCount : tx.inputs.length < 2 ^ 32
  inputs : ∀ i ∈ tx.inputs, i.FitsMsgpack
  outputCount : tx.outputs.length < 2 ^ 32
  outputs : ∀ o ∈ tx.outputs, o.FitsMsgpack
  extra : tx.extra.length < 2 ^ 32

/-- The number of groups has room in four bytes. A group has fewer than 2^16 signatures anyway. -/
def Signatures.FitsMsgpack : Signatures → Prop
  | .groups gs => gs.length < 2 ^ 32
  | .aggregated _ => True

/-- The signers are the positions of their signatures. No others can be written. -/
structure SignerMap.IsNumbered (g : SignerMap) : Prop where
  length_lt : g.entries.length < 2 ^ 16
  signers : g.signers = (List.range g.entries.length).map UInt16.ofNat

namespace Legacy

open Msgpack

/-! ## Records before their fields are checked -/

def RawDeposit.ofDeposit (d : Deposit) : RawDeposit :=
  { chain := d.chain.toBytes, assetKey := d.assetKey, transaction := d.transaction,
    index := d.index.toNat, amount := d.amount.toBytes }

def RawMint.ofMint (m : Mint) : RawMint :=
  { group := m.group, batch := m.batch.toNat, amount := m.amount.toBytes }

def RawInput.ofInput (i : Input) : RawInput :=
  { hash := i.hash.toBytes, index := i.index.toNat, genesis := i.genesis,
    deposit := i.deposit.map RawDeposit.ofDeposit, mint := i.mint.map RawMint.ofMint }

def RawWithdrawal.ofWithdrawal (w : Withdrawal) : RawWithdrawal :=
  { chain := w.chain.toBytes, assetKey := w.assetKey, address := w.address, tag := w.tag }

def RawOutput.ofOutput (o : Output) : RawOutput :=
  { kind := o.kind.toByte.toNat, amount := o.amount.toBytes, keys := o.keys.map Key.toBytes,
    script := o.script.bytes, mask := o.mask.toBytes,
    withdrawal := o.withdrawal.map RawWithdrawal.ofWithdrawal }

def RawTransaction.ofTransaction (tx : Transaction) (signatures : List (List Bytes)) :
    RawTransaction :=
  { version := tx.version.toNat, asset := tx.asset.toBytes,
    inputs := tx.inputs.map RawInput.ofInput, outputs := tx.outputs.map RawOutput.ofOutput,
    extra := tx.extra, signatures }

theorem length_hash_lt (h : Hash) : h.toBytes.length < 2 ^ 32 := by
  simp [Hash.toBytes]

theorem length_key_lt (k : Key) : k.toBytes.length < 2 ^ 32 := by
  simp [Key.toBytes]

theorem length_amount_lt (a : Amount) : a.toBytes.length < 2 ^ 32 :=
  Nat.lt_of_le_of_lt a.length_toBytes_le (by decide)

theorem readsAs_list {depth : Nat} {α β : Type} {view : Value → Option β} {write : α → Bytes}
    {f : α → β} {l : List α} (h : ∀ a ∈ l, ReadsAs depth view (write a) (f a))
    (hlen : l.length < 2 ^ 32) :
    ReadsAs (depth + 1) (listOf? view) (writeArray (l.map write)) (l.map f) :=
  readsAs_array h hlen

section

variable (depth : Nat)

theorem readsAs_deposit {d : Deposit} (h : d.FitsMsgpack) :
    ReadsAs (depth + 1) RawDeposit.ofValue? (writeDeposit d) (.ofDeposit d) := by
  obtain ⟨chain, hchain, hchain'⟩ := readsAs_bin depth (length_hash_lt d.chain)
  obtain ⟨key, hkey, hkey'⟩ := readsAs_text depth h.assetKey
  obtain ⟨tx, htx, htx'⟩ := readsAs_text depth h.transaction
  obtain ⟨index, hindex, hindex'⟩ := readsAs_nat depth d.index.toNat_lt (Nat.le_refl (2 ^ 64))
  obtain ⟨amount, hamount, hamount'⟩ := readsAs_bin depth (length_amount_lt d.amount)
  refine ⟨_, reads_record (.cons (.of (by decide) hchain) <| .cons (.of (by decide) hkey) <|
    .cons (.of (by decide) htx) <| .cons (.of (by decide) hindex) <|
    .cons (.of (by decide) hamount) .nil) (by simp), ?_⟩
  rw [RawDeposit.ofValue?, ofValue?_recordValue rfl (by simp) (by simp)]
  simp [Fields.required, List.lookup, hchain', hkey', htx', hindex', hamount', RawDeposit.ofDeposit]

theorem readsAs_mint {m : Mint} (h : (Bytes.ofText m.group).length < 2 ^ 32) :
    ReadsAs (depth + 1) RawMint.ofValue? (writeMint m) (.ofMint m) := by
  obtain ⟨group, hgroup, hgroup'⟩ := readsAs_text depth h
  obtain ⟨batch, hbatch, hbatch'⟩ := readsAs_nat depth m.batch.toNat_lt (Nat.le_refl (2 ^ 64))
  obtain ⟨amount, hamount, hamount'⟩ := readsAs_bin depth (length_amount_lt m.amount)
  refine ⟨_, reads_record (.cons (.of (by decide) hgroup) <| .cons (.of (by decide) hbatch) <|
    .cons (.of (by decide) hamount) .nil) (by simp), ?_⟩
  rw [RawMint.ofValue?, ofValue?_recordValue rfl (by simp) (by simp)]
  simp [Fields.required, List.lookup, hgroup', hbatch', hamount', RawMint.ofMint]

theorem readsAs_input {i : Input} (h : i.FitsMsgpack) :
    ReadsAs (depth + 2) RawInput.ofValue? (writeInput i) (.ofInput i) := by
  obtain ⟨hash, hhash, hhash'⟩ := readsAs_bin (depth + 1) (length_hash_lt i.hash)
  obtain ⟨index, hindex, hindex'⟩ :=
    readsAs_nat (depth + 1) (Nat.lt_trans i.index.toNat_lt (by decide)) (Nat.le_refl (2 ^ 64))
  obtain ⟨genesis, hgenesis, hgenesis'⟩ := readsAs_bin (depth + 1) h.genesis
  obtain ⟨deposit, hdeposit, hdeposit'⟩ :=
    readsAs_option rfl fun d hd => readsAs_deposit depth (h.deposit d hd)
  obtain ⟨mint, hmint, hmint'⟩ :=
    readsAs_option rfl fun m hm => readsAs_mint depth (h.mint m hm)
  refine ⟨_, reads_record (.cons (.of (by decide) hhash) <| .cons (.of (by decide) hindex) <|
    .cons (.of (by decide) hgenesis) <| .cons (.of (by decide) hdeposit) <|
    .cons (.of (by decide) hmint) .nil) (by simp), ?_⟩
  rw [RawInput.ofValue?, ofValue?_recordValue rfl (by simp) (by simp)]
  simp [-Nat.reducePow, Fields.required, Fields.optional, List.lookup, hhash', hindex',
    hgenesis', hdeposit', hmint', RawInput.ofInput]

theorem readsAs_withdrawal {w : Withdrawal} (h : w.FitsMsgpack) :
    ReadsAs (depth + 1) RawWithdrawal.ofValue? (writeWithdrawal w) (.ofWithdrawal w) := by
  obtain ⟨chain, hchain, hchain'⟩ := readsAs_bin depth (length_hash_lt w.chain)
  obtain ⟨key, hkey, hkey'⟩ := readsAs_text depth h.assetKey
  obtain ⟨address, haddress, haddress'⟩ := readsAs_text depth h.address
  obtain ⟨tag, htag, htag'⟩ := readsAs_text depth h.tag
  refine ⟨_, reads_record (.cons (.of (by decide) hchain) <| .cons (.of (by decide) hkey) <|
    .cons (.of (by decide) haddress) <| .cons (.of (by decide) htag) .nil) (by simp), ?_⟩
  rw [RawWithdrawal.ofValue?, ofValue?_recordValue rfl (by simp) (by simp)]
  simp [Fields.required, List.lookup, hchain', hkey', haddress', htag', RawWithdrawal.ofWithdrawal]

theorem readsAs_output {o : Output} (h : o.FitsMsgpack) :
    ReadsAs (depth + 2) RawOutput.ofValue? (writeOutput o) (.ofOutput o) := by
  obtain ⟨kind, hkind, hkind'⟩ :=
    readsAs_nat (depth + 1) o.kind.toByte.toNat_lt (by decide : 2 ^ 8 ≤ 2 ^ 64)
  obtain ⟨amount, hamount, hamount'⟩ := readsAs_bin (depth + 1) (length_amount_lt o.amount)
  obtain ⟨keys, hkeys, hkeys'⟩ :=
    readsAs_list (fun k _ => readsAs_bin depth (length_key_lt k)) h.keys
  obtain ⟨script, hscript, hscript'⟩ := readsAs_bin (depth + 1) h.script
  obtain ⟨mask, hmask, hmask'⟩ := readsAs_bin (depth + 1) (length_key_lt o.mask)
  have hfields : List.Forall₂ (ReadsField (depth + 1)) [("Type", _), ("Amount", _), ("Keys", _),
      ("Script", _), ("Mask", _)] _ :=
    .cons (.of (by decide) hkind) <| .cons (.of (by decide) hamount) <|
      .cons (.of (by decide) hkeys) <| .cons (.of (by decide) hscript) <|
      .cons (.of (by decide) hmask) .nil
  cases hw : o.withdrawal with
  | none =>
    have htail : List.Forall₂ (ReadsField (depth + 1))
        (o.withdrawal.map fun w => ("Withdrawal", writeWithdrawal w)).toList [] := by
      rw [hw]
      exact .nil
    refine ⟨_, reads_record (List.rel_append hfields htail) (by simp [hw]), ?_⟩
    rw [RawOutput.ofValue?, ofValue?_recordValue rfl (by simp) (by simp)]
    simp [Fields.required, Fields.optional, List.lookup, hkind', hamount', hkeys', hscript',
      hmask', RawOutput.ofOutput, hw]
  | some w =>
    obtain ⟨v, hv, hview⟩ := readsAs_withdrawal depth (h.withdrawal w hw)
    have hv' := option?_eq_some rfl hview
    have htail : List.Forall₂ (ReadsField (depth + 1))
        (o.withdrawal.map fun w => ("Withdrawal", writeWithdrawal w)).toList
        [("Withdrawal", v)] := by
      rw [hw]
      exact .cons (.of (by decide) hv) .nil
    refine ⟨_, reads_record (List.rel_append hfields htail) (by simp [hw]), ?_⟩
    rw [RawOutput.ofValue?, ofValue?_recordValue rfl (by simp) (by simp)]
    simp [Fields.required, Fields.optional, List.lookup, hkind', hamount', hkeys', hscript',
      hmask', hv', RawOutput.ofOutput, hw]

theorem readsAs_transaction {tx : Transaction} {written : Option Bytes} {sigs : List (List Bytes)}
    (h : tx.FitsMsgpack) (hnone : written = none → sigs = [])
    (hsome : ∀ b ∈ written, ReadsAs (depth + 3) (listOf? (listOf? Value.bytes?)) b sigs) :
    ReadsAs (depth + 4) RawTransaction.ofValue? (writeWith tx written)
      (.ofTransaction tx sigs) := by
  obtain ⟨version, hversion, hversion'⟩ :=
    readsAs_nat (depth + 3) tx.version.toNat_lt (by decide : 2 ^ 8 ≤ 2 ^ 64)
  obtain ⟨asset, hasset, hasset'⟩ := readsAs_bin (depth + 3) (length_hash_lt tx.asset)
  obtain ⟨inputs, hinputs, hinputs'⟩ :=
    readsAs_list (fun i hi => readsAs_input depth (h.inputs i hi)) h.inputCount
  obtain ⟨outputs, houtputs, houtputs'⟩ :=
    readsAs_list (fun o ho => readsAs_output depth (h.outputs o ho)) h.outputCount
  obtain ⟨extra, hextra, hextra'⟩ := readsAs_bin (depth + 3) h.extra
  have hfields : List.Forall₂ (ReadsField (depth + 3)) [("Version", _), ("Asset", _),
      ("Inputs", _), ("Outputs", _), ("Extra", _)] _ :=
    .cons (.of (by decide) hversion) <| .cons (.of (by decide) hasset) <|
      .cons (.of (by decide) hinputs) <| .cons (.of (by decide) houtputs) <|
      .cons (.of (by decide) hextra) .nil
  cases written with
  | none =>
    refine ⟨_, reads_record (List.rel_append hfields .nil) (by simp), ?_⟩
    rw [RawTransaction.ofValue?, ofValue?_recordValue rfl (by simp) (by simp)]
    simp [Fields.required, Fields.optional, List.lookup, hversion', hasset', hinputs', houtputs',
      hextra', RawTransaction.ofTransaction, hnone]
  | some b =>
    obtain ⟨v, hv, hview⟩ := hsome b rfl
    have hv' := option?_eq_some rfl hview
    refine ⟨_, reads_record (List.rel_append hfields (.cons (.of (by decide) hv) .nil)) (by simp),
      ?_⟩
    rw [RawTransaction.ofValue?, ofValue?_recordValue rfl (by simp) (by simp)]
    simp [Fields.required, Fields.optional, List.lookup, hversion', hasset', hinputs', houtputs',
      hextra', hv', RawTransaction.ofTransaction]

end

/-! ## Checking the fields -/

theorem fixed_toList {n : Nat} (v : Vector UInt8 n) : fixed n v.toList = .ok v := by
  rw [fixed, Bytes.toVector?_toList]

theorem fixed_eq_ok_iff {n : Nat} {b : Bytes} {v : Vector UInt8 n} :
    fixed n b = .ok v ↔ b = v.toList := by
  constructor
  · intro h
    rw [fixed] at h
    split at h
    · next w hw =>
      obtain rfl := Except.ok.inj h
      exact (Bytes.toList_of_toVector? hw).symm
    · exact nomatch h
  · rintro rfl
    exact fixed_toList v

theorem readAmount_toBytes (a : Amount) : readAmount a.toBytes = .ok a := by
  rw [readAmount, Amount.ofBytes_toBytes]
  rfl

section

variable {α β ε : Type} {raw : α → β} {check : β → Except ε α}

theorem option_mapM_eq_ok (h : ∀ a, check (raw a) = .ok a) (o : Option α) :
    (o.map raw).mapM check = .ok o := by
  cases o with
  | none => rfl
  | some a => simp [h a, Functor.map, Except.map]

theorem list_mapM_eq_ok (h : ∀ a, check (raw a) = .ok a) (l : List α) :
    (l.map raw).mapM check = .ok l := by
  induction l with
  | nil => rfl
  | cons a l ih =>
    rw [List.map_cons, List.mapM_cons, h a, ih]
    rfl

end

theorem check_ofDeposit (d : Deposit) : (RawDeposit.ofDeposit d).check = .ok d := by
  simp only [RawDeposit.check, RawDeposit.ofDeposit, Hash.toBytes, fixed_toList,
    readAmount_toBytes, UInt64.ofNat_toNat]
  rfl

theorem check_ofMint (m : Mint) : (RawMint.ofMint m).check = .ok m := by
  simp only [RawMint.check, RawMint.ofMint, readAmount_toBytes, UInt64.ofNat_toNat]
  rfl

theorem check_ofInput (i : Input) : (RawInput.ofInput i).check = .ok i := by
  have hindex : ¬ 256 ≤ i.index.toNat := Nat.not_le.mpr i.index.toNat_lt
  simp only [RawInput.check, RawInput.ofInput, hindex, if_false,
    option_mapM_eq_ok check_ofDeposit, option_mapM_eq_ok check_ofMint, Hash.toBytes, fixed_toList,
    UInt8.ofNat_toNat]
  rfl

theorem check_ofWithdrawal (w : Withdrawal) : (RawWithdrawal.ofWithdrawal w).check = .ok w := by
  simp only [RawWithdrawal.check, RawWithdrawal.ofWithdrawal, Hash.toBytes, fixed_toList]
  rfl

theorem check_ofOutput (o : Output) : (RawOutput.ofOutput o).check = .ok o := by
  have hkeys : (o.keys.map Key.toBytes).mapM (fun k => do return Key.mk (← fixed 32 k)) =
      .ok o.keys := by
    refine list_mapM_eq_ok (fun k => ?_) o.keys
    rw [Key.toBytes, fixed_toList]
    rfl
  simp only [RawOutput.check, RawOutput.ofOutput, option_mapM_eq_ok check_ofWithdrawal,
    UInt8.ofNat_toNat, OutputType.ofByte?_toByte, readAmount_toBytes, hkeys, Key.toBytes,
    fixed_toList]
  rfl

theorem check_ofTransaction (tx : Transaction) {sigs : List (List Bytes)}
    {groups : List SignerMap} (h : sigs.mapM checkGroup = .ok groups) :
    (RawTransaction.ofTransaction tx sigs).check =
      .ok { tx with references := [], signatures := .groups groups } := by
  simp only [RawTransaction.check, RawTransaction.ofTransaction, list_mapM_eq_ok check_ofInput,
    list_mapM_eq_ok check_ofOutput, h, Hash.toBytes, fixed_toList, UInt8.ofNat_toNat]
  rfl

/-! ## Signatures -/

def groupBytes (g : SignerMap) : Bytes :=
  writeArray (g.signatures.map fun s => writeBin s.toBytes)

theorem writeGroup_eq_ok_iff {g : SignerMap} {b : Bytes} :
    writeGroup g = .ok b ↔ g.IsNumbered ∧ b = groupBytes g := by
  rw [writeGroup]
  split
  · next h =>
    constructor
    · intro hb
      exact ⟨⟨h.1, h.2⟩, (Except.ok.inj hb).symm⟩
    · rintro ⟨_, rfl⟩
      rfl
  · next h =>
    refine ⟨nofun, fun hb => absurd ?_ h⟩
    exact ⟨hb.1.length_lt, hb.1.signers⟩

theorem mapM_writeGroup_eq_ok_iff {gs : List SignerMap} {bs : List Bytes} :
    gs.mapM writeGroup = .ok bs ↔ (∀ g ∈ gs, g.IsNumbered) ∧ bs = gs.map groupBytes := by
  simp only [mapM_eq_ok_iff, writeGroup_eq_ok_iff]
  rw [List.forall₂_and_left]
  refine and_congr_right' ?_
  constructor
  · intro h
    induction h with
    | nil => rfl
    | cons hb _ ih => rw [hb, ih, List.map_cons]
  · rintro rfl
    rw [List.forall₂_map_right_iff, List.forall₂_same]
    exact fun _ _ => rfl

/-- Without aggregated signature and with groups of numbered signers, everything is written. -/
theorem write_eq_ok_iff {tx : Transaction} {b : Bytes} :
    write tx = .ok b ↔ ∃ gs, tx.signatures = .groups gs ∧ (∀ g ∈ gs, g.IsNumbered) ∧
      b = writeWith tx (some (writeArray (gs.map groupBytes))) := by
  rw [write, bind_eq_ok_iff]
  cases tx.signatures with
  | aggregated agg => simp [writeSignatures]
  | groups gs =>
    simp only [writeSignatures, bind_eq_ok_iff, mapM_writeGroup_eq_ok_iff]
    constructor
    · rintro ⟨_, ⟨bs, ⟨hnumbered, rfl⟩, h⟩, hb⟩
      obtain rfl := Except.ok.inj h
      exact ⟨gs, rfl, hnumbered, (Except.ok.inj hb).symm⟩
    · rintro ⟨gs', hgs, hnumbered, rfl⟩
      obtain rfl := Signatures.groups.inj hgs
      exact ⟨_, ⟨_, ⟨hnumbered, rfl⟩, rfl⟩, rfl⟩

theorem mapM_writeGroup_eq_error {gs : List SignerMap} (h : ∃ g ∈ gs, ¬ g.IsNumbered) :
    gs.mapM writeGroup = .error .legacySignerIndices := by
  induction gs with
  | nil => simp at h
  | cons g gs ih =>
    rw [List.mapM_cons]
    by_cases hg : g.IsNumbered
    · obtain ⟨g', hmem, hnot⟩ := h
      have hrest : ∃ g' ∈ gs, ¬ g'.IsNumbered := by
        rcases List.mem_cons.mp hmem with rfl | hmem
        · exact absurd hg hnot
        · exact ⟨g', hmem, hnot⟩
      rw [writeGroup_eq_ok_iff.mpr ⟨hg, rfl⟩, ih hrest]
      rfl
    · rw [writeGroup, if_neg fun h => hg ⟨h.1, h.2⟩]
      rfl

theorem write_eq_error {tx : Transaction} {gs : List SignerMap} (hgs : tx.signatures = .groups gs)
    (h : ∃ g ∈ gs, ¬ g.IsNumbered) : write tx = .error .legacySignerIndices := by
  rw [write, hgs, writeSignatures, mapM_writeGroup_eq_error h]
  rfl

theorem checkGroup_eq_ok_iff {sigs : List Bytes} {g : SignerMap} :
    checkGroup sigs = .ok g ↔
      ∃ l, sigs = l.map Signature.toBytes ∧ g = SignerMap.ofSignatures l := by
  have hone : ∀ (b : Bytes) (s : Signature),
      (do return Signature.mk (← fixed 64 b) : Except DecodeError Signature) = .ok s ↔
        b = s.toBytes := by
    intro b s
    simp only [bind_eq_ok_iff, fixed_eq_ok_iff]
    constructor
    · rintro ⟨v, hv, h⟩
      obtain rfl := Except.ok.inj h
      exact hv
    · intro hb
      exact ⟨s.bytes, hb, rfl⟩
  rw [checkGroup, bind_eq_ok_iff]
  simp only [mapM_eq_ok_iff, hone]
  constructor
  · rintro ⟨l, hl, h⟩
    rw [← List.forall₂_map_right_iff, List.forall₂_eq_eq_eq] at hl
    exact ⟨l, hl, (Except.ok.inj h).symm⟩
  · rintro ⟨l, rfl, rfl⟩
    refine ⟨l, ?_, rfl⟩
    rw [List.forall₂_map_left_iff, List.forall₂_same]
    exact fun _ _ => rfl

theorem ofSignatures_signatures {g : SignerMap} (h : g.IsNumbered) :
    SignerMap.ofSignatures g.signatures = g := by
  have hentries : g.signatures.zipIdx.map (fun e => (UInt16.ofNat e.2, e.1)) = g.entries := by
    refine List.ext_getElem? fun n => ?_
    have hsigner : g.signers[n]? = ((List.range g.entries.length).map UInt16.ofNat)[n]? := by
      rw [h.signers]
    rw [List.getElem?_map, List.getElem?_zipIdx, SignerMap.signatures, List.getElem?_map]
    rw [SignerMap.signers, List.getElem?_map, List.getElem?_map] at hsigner
    cases hentry : g.entries[n]? with
    | none => rfl
    | some entry =>
      have hlt : n < g.entries.length := (List.getElem?_eq_some_iff.mp hentry).1
      rw [hentry, List.getElem?_range hlt] at hsigner
      have hfst : entry.1 = UInt16.ofNat n := Option.some.inj hsigner
      simp [← hfst]
  rw [SignerMap.ofSignatures, hentries, SignerMap.ofList_entries]

theorem checkGroup_signatures {g : SignerMap} (h : g.IsNumbered) :
    checkGroup (g.signatures.map Signature.toBytes) = .ok g :=
  checkGroup_eq_ok_iff.mpr ⟨g.signatures, rfl, (ofSignatures_signatures h).symm⟩

theorem length_signature_lt (s : Signature) : s.toBytes.length < 2 ^ 32 := by
  simp [Signature.toBytes]

theorem readsAs_signatures (depth : Nat) {l : List Signature} (h : l.length < 2 ^ 32) :
    ReadsAs (depth + 1) (listOf? Value.bytes?)
      (writeArray (l.map fun s => writeBin s.toBytes)) (l.map Signature.toBytes) :=
  readsAs_list (fun s _ => readsAs_bin depth (length_signature_lt s)) h

theorem readsAs_group (depth : Nat) {g : SignerMap} (h : g.IsNumbered) :
    ReadsAs (depth + 1) (listOf? Value.bytes?) (groupBytes g)
      (g.signatures.map Signature.toBytes) := by
  refine readsAs_signatures depth ?_
  rw [SignerMap.signatures, List.length_map]
  exact h.length_lt.trans (by decide)

theorem readsAs_groups (depth : Nat) {gs : List SignerMap} (h : ∀ g ∈ gs, g.IsNumbered)
    (hcount : gs.length < 2 ^ 32) :
    ReadsAs (depth + 2) (listOf? (listOf? Value.bytes?)) (writeArray (gs.map groupBytes))
      (gs.map fun g => g.signatures.map Signature.toBytes) :=
  readsAs_list (fun g hg => readsAs_group depth (h g hg)) hcount

/-! ## Whole transactions -/

/-- The record that bytes without a header are, before its fields are checked. -/
def record? (b : Bytes) : Option RawTransaction :=
  match readValue.run b with
  | some (v, []) => RawTransaction.ofValue? v
  | _ => none

theorem record?_eq_some_iff {b : Bytes} {t : RawTransaction} :
    record? b = some t ↔
      ∃ v, readValue.run b = some (v, []) ∧ RawTransaction.ofValue? v = some t := by
  constructor
  · intro h
    rw [record?] at h
    split at h
    · next v hrun => exact ⟨v, hrun, h⟩
    · exact nomatch h
  · rintro ⟨v, hrun, ht⟩
    rw [record?, hrun]
    exact ht

theorem read_eq_ok_iff {b : Bytes} {tx : Transaction} :
    read b = .ok tx ↔
      ∃ t, record? b = some t ∧ t.version < Version.binary.toNat ∧ t.check = .ok tx := by
  constructor
  · intro h
    rw [read] at h
    split at h
    · exact nomatch h
    · next v rest hrun =>
      split at h
      · exact nomatch h
      · next t ht =>
        split at h
        · exact nomatch h
        · next hrest =>
          obtain rfl := not_not.mp hrest
          split at h
          · exact nomatch h
          · next hv =>
            exact ⟨t, record?_eq_some_iff.mpr ⟨v, hrun, ht⟩, Nat.lt_of_not_le hv, h⟩
  · rintro ⟨t, hrecord, hv, htx⟩
    obtain ⟨v, hrun, ht⟩ := record?_eq_some_iff.mp hrecord
    rw [read, hrun]
    simp only [ht, ne_eq, not_true_eq_false, if_false, Nat.not_le.mpr hv]
    exact htx

theorem record?_writeWith {tx : Transaction} {written : Option Bytes} {sigs : List (List Bytes)}
    (h : tx.FitsMsgpack) (hnone : written = none → sigs = [])
    (hsome : ∀ b ∈ written, ReadsAs 1022 (listOf? (listOf? Value.bytes?)) b sigs) :
    record? (writeWith tx written) = some (.ofTransaction tx sigs) := by
  obtain ⟨v, hread, hview⟩ := readsAs_transaction 1019 h hnone hsome
  have hrun := hread []
  rw [List.append_nil] at hrun
  exact record?_eq_some_iff.mpr ⟨v, hrun, hview⟩

theorem read_writeWith {tx : Transaction} {written : Option Bytes} {sigs : List (List Bytes)}
    {groups : List SignerMap} (hv : tx.version < Version.binary) (h : tx.FitsMsgpack)
    (hnone : written = none → sigs = [])
    (hsome : ∀ b ∈ written, ReadsAs 1022 (listOf? (listOf? Value.bytes?)) b sigs)
    (hgroups : sigs.mapM checkGroup = .ok groups) :
    read (writeWith tx written) =
      .ok { tx with references := [], signatures := .groups groups } := by
  have hrecord := record?_writeWith h hnone hsome
  have hversion := UInt8.lt_iff_toNat_lt.mp hv
  exact read_eq_ok_iff.mpr ⟨_, hrecord, hversion, check_ofTransaction tx hgroups⟩

/-- What is written without signatures is read back without signatures and references. -/
theorem read_writePayload {tx : Transaction} (hv : tx.version < Version.binary)
    (h : tx.FitsMsgpack) :
    read (writePayload tx) = .ok { tx with references := [], signatures := Signatures.none } :=
  read_writeWith hv h (fun _ => rfl) (fun _ hb => absurd hb (by simp)) rfl

/-- What is written with signatures is read back with them. -/
theorem read_write {tx : Transaction} {b : Bytes} (hv : tx.version < Version.binary)
    (h : tx.FitsMsgpack) (hsigs : tx.signatures.FitsMsgpack) (hb : write tx = .ok b) :
    read b = .ok { tx with references := [] } := by
  obtain ⟨gs, hgs, hnumbered, rfl⟩ := write_eq_ok_iff.mp hb
  rw [hgs] at hsigs
  have hgroups : (gs.map fun g => g.signatures.map Signature.toBytes).mapM checkGroup = .ok gs := by
    rw [mapM_eq_ok_iff, List.forall₂_map_left_iff, List.forall₂_same]
    exact fun g hg => checkGroup_signatures (hnumbered g hg)
  have hreads := readsAs_groups 1020 hnumbered hsigs
  rw [read_writeWith hv h (absurd · (by simp)) (by simpa using hreads) hgroups, ← hgs]

end Legacy

end KernelWallet
