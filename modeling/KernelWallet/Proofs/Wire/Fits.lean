import KernelWallet.Proofs.Wire.ReadsBack

/-! What keeps a transaction from being written. The lengths in it are written in a fixed order, and
the first that does not fit its width is the error. Amounts always fit, and so do the signers of an
aggregated signature in whichever layout they are written. -/

namespace KernelWallet

/-- A length that is written, the field that its error names, and the greatest length that fits. -/
structure Measure where
  field : String
  length : Nat
  most : Nat

namespace Measure

/-- Whether the length does not fit. -/
def exceeds (m : Measure) : Bool :=
  m.most < m.length

/-- A length in two bytes. -/
def short (field : String) (length : Nat) : Measure :=
  ⟨field, length, 65535⟩

def ofText (field s : String) : Measure :=
  short field (Bytes.ofText s).length

def AllFit (ms : List Measure) : Prop :=
  ∀ m ∈ ms, m.length ≤ m.most

section

variable {α : Type} {m : Measure} {ms ms' : List Measure}

@[simp] theorem allFit_nil : AllFit [] :=
  nofun

@[simp] theorem allFit_cons : AllFit (m :: ms) ↔ m.length ≤ m.most ∧ AllFit ms :=
  List.forall_mem_cons

@[simp] theorem allFit_append : AllFit (ms ++ ms') ↔ AllFit ms ∧ AllFit ms' :=
  List.forall_mem_append

@[simp] theorem allFit_flatMap {l : List α} {measures : α → List Measure} :
    AllFit (l.flatMap measures) ↔ ∀ a ∈ l, AllFit (measures a) :=
  List.forall_mem_flatMap

@[simp] theorem allFit_map {l : List α} {measure : α → Measure} :
    AllFit (l.map measure) ↔ ∀ a ∈ l, (measure a).length ≤ (measure a).most :=
  List.forall_mem_map

theorem allFit_ite {c : Prop} [Decidable c] :
    AllFit (if c then [m] else []) ↔ (c → m.length ≤ m.most) := by
  split <;> simp [*]

theorem allFit_iff_find? : AllFit ms ↔ ms.find? exceeds = none := by
  simp [AllFit, exceeds]

end

end Measure

/-! ## The lengths of a transaction -/

def Deposit.measures (d : Deposit) : List Measure :=
  [.ofText "asset_key" d.assetKey, .ofText "transaction" d.transaction]

def Mint.measures (m : Mint) : List Measure :=
  [.ofText "group" m.group]

def Input.measures (i : Input) : List Measure :=
  [.short "genesis" i.genesis.length] ++ i.deposit.toList.flatMap Deposit.measures ++
    i.mint.toList.flatMap Mint.measures

def Withdrawal.measures (version : UInt8) (w : Withdrawal) : List Measure :=
  (if version < Version.shortWithdrawals then [.ofText "asset_key" w.assetKey] else []) ++
    [.ofText "address" w.address, .ofText "tag" w.tag]

def Output.measures (version : UInt8) (o : Output) : List Measure :=
  [.short "keys" o.keys.length, .short "script" o.script.bytes.length] ++
    o.withdrawal.toList.flatMap (Withdrawal.measures version)

/-- The greatest number of groups has its two bytes taken by the marker of an aggregated
signature. -/
def Signatures.measures : Signatures → List Measure
  | .groups gs => ⟨"signatures", gs.length, 65534⟩ ::
      gs.map fun g => .short "signers" g.entries.length
  | .aggregated _ => []

/-- The lengths that are written of a transaction, in the order in which they are written. -/
def Transaction.measures (tx : Transaction) : List Measure :=
  [.short "inputs" tx.inputs.length] ++ tx.inputs.flatMap Input.measures ++
    [.short "outputs" tx.outputs.length] ++ tx.outputs.flatMap (Output.measures tx.version) ++
    (if Version.references ≤ tx.version then [.short "references" tx.references.length] else []) ++
    [⟨"extra", tx.extra.length,
      if Version.references ≤ tx.version then 2 ^ 32 - 1 else 65535⟩] ++
    tx.signatures.measures

/-! ## Writing in order -/

namespace Wire

/-- The lengths are looked at one after the other. If all fit, there is a result, and otherwise the
first that does not is the error. -/
def Measured {α : Type} (r : Except EncodeError α) (ms : List Measure) : Prop :=
  match ms.find? Measure.exceeds with
  | none => ∃ a, r = .ok a
  | some m => r = .error (.tooLong m.field m.length)

section

variable {α β : Type} {r : Except EncodeError α} {ms ms' : List Measure}

theorem Measured.pure (a : α) : Measured (Pure.pure a) [] :=
  ⟨a, rfl⟩

theorem Measured.bind {next : α → Except EncodeError β} (h : Measured r ms)
    (h' : ∀ a, Measured (next a) ms') : Measured (r >>= next) (ms ++ ms') := by
  rw [Measured, List.find?_append]
  rw [Measured] at h
  cases hfirst : ms.find? Measure.exceeds with
  | none =>
    rw [hfirst] at h
    obtain ⟨a, rfl⟩ := h
    exact h' a
  | some m =>
    rw [hfirst] at h
    rw [h]
    rfl

theorem Measured.bind_pure (f : α → β) (h : Measured r ms) :
    Measured (r >>= fun a => Pure.pure (f a)) ms := by
  have hbind := h.bind fun a => Measured.pure (f a)
  rwa [List.append_nil] at hbind

/-- A result behind the check of a length. -/
theorem Measured.guard {m : Measure} {c : Prop} [Decidable c] (hc : c ↔ m.length ≤ m.most)
    (h : Measured r ms) :
    Measured (if c then r else .error (.tooLong m.field m.length)) (m :: ms) := by
  rw [Measured, List.find?_cons]
  by_cases hfits : m.length ≤ m.most
  · have hexceeds : m.exceeds = false := decide_eq_false (Nat.not_lt.mpr hfits)
    rw [if_pos (hc.mpr hfits), hexceeds]
    exact h
  · have hexceeds : m.exceeds = true := decide_eq_true (Nat.lt_of_not_le hfits)
    rw [if_neg (mt hc.mp hfits), hexceeds]

theorem Measured.exists_eq_ok_iff (h : Measured r ms) : (∃ a, r = .ok a) ↔ Measure.AllFit ms := by
  rw [Measure.allFit_iff_find?]
  rw [Measured] at h
  cases hfirst : ms.find? Measure.exceeds with
  | none =>
    rw [hfirst] at h
    exact iff_of_true h rfl
  | some m =>
    rw [hfirst] at h
    rw [h]
    simp

/-- Lengths that fit whatever they are need not be listed. -/
theorem Measured.of_allFit (h : Measured r ms) (hfit : Measure.AllFit ms) : Measured r [] :=
  h.exists_eq_ok_iff.mpr hfit

theorem Measured.exists_eq_error (h : Measured r ms) (hlong : ¬ Measure.AllFit ms) :
    ∃ m, ms.find? Measure.exceeds = some m ∧ r = .error (.tooLong m.field m.length) := by
  rw [Measure.allFit_iff_find?] at hlong
  obtain ⟨m, hfirst⟩ := Option.ne_none_iff_exists'.mp hlong
  rw [Measured, hfirst] at h
  exact ⟨m, hfirst, h⟩

end

theorem measured_count (field : String) (n : Nat) :
    Measured (writeCount field n) [.short field n] :=
  .guard (m := .short field n) Nat.lt_succ_iff (.pure _)

theorem measured_bytes (field : String) (b : Bytes) :
    Measured (writeBytes field b) [.short field b.length] :=
  (measured_count field b.length).bind_pure _

theorem measured_text (field s : String) : Measured (writeText field s) [.ofText field s] :=
  measured_bytes field (Bytes.ofText s)

theorem measured_amount (a : Amount) : Measured (writeAmount a) [] := by
  have hlength : a.toBytes.length ≤ 65535 := a.length_toBytes_le.trans (by decide)
  exact (measured_bytes "amount" a.toBytes).of_allFit
    (Measure.allFit_cons.mpr ⟨hlength, Measure.allFit_nil⟩)

section

variable {α : Type} {write : α → Except EncodeError Bytes} {measures : α → List Measure}

theorem measured_all (hwrite : ∀ a, Measured (write a) (measures a)) (l : List α) :
    Measured (writeAll write l) (l.flatMap measures) := by
  have hall : Measured (l.mapM write) (l.flatMap measures) := by
    induction l with
    | nil => exact .pure []
    | cons a l ih =>
      rw [List.mapM_cons, List.flatMap_cons]
      exact (hwrite a).bind fun b => ih.bind_pure (b :: ·)
  exact hall.bind_pure List.flatten

theorem measured_option (hwrite : ∀ a, Measured (write a) (measures a)) (o : Option α) :
    Measured (writeOption write o) (o.toList.flatMap measures) := by
  cases o with
  | none => exact .pure Marker.absent
  | some a =>
    rw [Option.toList_some, List.flatMap_singleton]
    exact (hwrite a).bind_pure (Marker.present ++ ·)

end

theorem measured_deposit (d : Deposit) : Measured (writeDeposit d) d.measures :=
  (measured_text "asset_key" d.assetKey).bind fun _ =>
    (measured_text "transaction" d.transaction).bind fun _ => (measured_amount d.amount).bind_pure _

theorem measured_mint (m : Mint) : Measured (writeMint m) m.measures :=
  (measured_text "group" m.group).bind fun _ => (measured_amount m.amount).bind_pure _

theorem measured_input (i : Input) : Measured (writeInput i) i.measures := by
  rw [Input.measures, List.append_assoc]
  exact (measured_bytes "genesis" i.genesis).bind fun _ =>
    (measured_option measured_deposit i.deposit).bind fun _ =>
      (measured_option measured_mint i.mint).bind_pure _

theorem measured_source (version : UInt8) (w : Withdrawal) :
    Measured (writeSource version w)
      (if version < Version.shortWithdrawals then [.ofText "asset_key" w.assetKey] else []) := by
  rw [writeSource]
  split
  · exact (measured_text "asset_key" w.assetKey).bind_pure _
  · exact .pure []

theorem measured_withdrawal (version : UInt8) (w : Withdrawal) :
    Measured (writeWithdrawal version w) (w.measures version) :=
  (measured_source version w).bind fun _ =>
    (measured_text "address" w.address).bind fun _ => (measured_text "tag" w.tag).bind_pure _

theorem measured_output (version : UInt8) (o : Output) :
    Measured (writeOutput version o) (o.measures version) :=
  (measured_amount o.amount).bind fun _ =>
    (measured_count "keys" o.keys.length).bind fun _ =>
      (measured_bytes "script" o.script.bytes).bind fun _ =>
        (measured_option (measured_withdrawal version) o.withdrawal).bind_pure _

theorem measured_references (version : UInt8) (refs : List Hash) :
    Measured (writeReferences version refs)
      (if Version.references ≤ version then [.short "references" refs.length] else []) := by
  rw [writeReferences]
  split
  · exact (measured_count "references" refs.length).bind_pure _
  · exact .pure []

theorem measured_extra (version : UInt8) (extra : Bytes) :
    Measured (writeExtra version extra) [⟨"extra", extra.length,
      if Version.references ≤ version then 2 ^ 32 - 1 else 65535⟩] := by
  rw [writeExtra]
  split
  · exact .guard (m := ⟨"extra", extra.length, 2 ^ 32 - 1⟩) Nat.lt_succ_iff (.pure _)
  · exact measured_bytes "extra" extra

theorem measured_group (g : SignerMap) :
    Measured (writeGroup g) [.short "signers" g.entries.length] :=
  (measured_count "signers" g.entries.length).bind_pure _

/-- A bitmap has at most 8192 bytes, and a list of signers is only written where it is shorter. -/
theorem measured_signers (s : SignerSet) : Measured (writeSigners s) [] := by
  have hbitmap := s.bitmapLength_le
  rw [writeSigners]
  split
  · next hsparse =>
    have hlt : s.toList.length * 2 < s.bitmapLength := of_decide_eq_true hsparse
    refine ((measured_count "signers" s.toList.length).bind_pure _).of_allFit ?_
    exact Measure.allFit_cons.mpr ⟨(by omega : s.toList.length ≤ 65535), Measure.allFit_nil⟩
  · refine ((measured_bytes "signers" s.bitmap).bind_pure _).of_allFit ?_
    rw [SignerSet.length_bitmap]
    exact Measure.allFit_cons.mpr ⟨(by omega : s.bitmapLength ≤ 65535), Measure.allFit_nil⟩

theorem measured_signatures (signatures : Signatures) :
    Measured (writeSignatures signatures) signatures.measures := by
  cases signatures with
  | aggregated a => exact (measured_signers a.signers).bind_pure _
  | groups gs =>
    rw [writeSignatures, Signatures.measures, List.map_eq_flatMap]
    exact .guard (m := ⟨"signatures", gs.length, 65534⟩) Nat.lt_succ_iff
      ((measured_all measured_group gs).bind_pure _)

theorem measured_body (tx : Transaction) : Measured (writeBody tx) tx.measures := by
  simp only [Transaction.measures, List.append_assoc]
  exact (measured_count "inputs" tx.inputs.length).bind fun _ =>
    (measured_all measured_input tx.inputs).bind fun _ =>
    (measured_count "outputs" tx.outputs.length).bind fun _ =>
    (measured_all (measured_output tx.version) tx.outputs).bind fun _ =>
    (measured_references tx.version tx.references).bind fun _ =>
    (measured_extra tx.version tx.extra).bind fun _ =>
    (measured_signatures tx.signatures).bind_pure _

end Wire

/-! ## What fits -/

structure Deposit.FitsWire (d : Deposit) : Prop where
  assetKey : (Bytes.ofText d.assetKey).length ≤ 65535
  transaction : (Bytes.ofText d.transaction).length ≤ 65535

structure Input.FitsWire (i : Input) : Prop where
  genesis : i.genesis.length ≤ 65535
  deposit : ∀ d ∈ i.deposit, d.FitsWire
  mint : ∀ m ∈ i.mint, (Bytes.ofText m.group).length ≤ 65535

structure Withdrawal.FitsWire (version : UInt8) (w : Withdrawal) : Prop where
  assetKey : version.toNat < 5 → (Bytes.ofText w.assetKey).length ≤ 65535
  address : (Bytes.ofText w.address).length ≤ 65535
  tag : (Bytes.ofText w.tag).length ≤ 65535

structure Output.FitsWire (version : UInt8) (o : Output) : Prop where
  keys : o.keys.length ≤ 65535
  script : o.script.bytes.length ≤ 65535
  withdrawal : ∀ w ∈ o.withdrawal, w.FitsWire version

def Signatures.FitsWire : Signatures → Prop
  | .groups gs => gs.length ≤ 65534 ∧ ∀ g ∈ gs, g.entries.length ≤ 65535
  | .aggregated _ => True

/-- Every length that its version writes of a transaction fits the width that it is written in. -/
structure Transaction.FitsWire (tx : Transaction) : Prop where
  inputCount : tx.inputs.length ≤ 65535
  inputs : ∀ i ∈ tx.inputs, i.FitsWire
  outputCount : tx.outputs.length ≤ 65535
  outputs : ∀ o ∈ tx.outputs, o.FitsWire tx.version
  referenceCount : 4 ≤ tx.version.toNat → tx.references.length ≤ 65535
  extra : tx.extra.length ≤ if 4 ≤ tx.version.toNat then 2 ^ 32 - 1 else 65535
  signatures : tx.signatures.FitsWire

theorem Deposit.fitsWire_iff {d : Deposit} : d.FitsWire ↔ Measure.AllFit d.measures := by
  simp only [measures, Measure.allFit_cons, Measure.allFit_nil, and_true]
  exact ⟨fun h => ⟨h.assetKey, h.transaction⟩,
    fun ⟨assetKey, transaction⟩ => ⟨assetKey, transaction⟩⟩

theorem Input.fitsWire_iff {i : Input} : i.FitsWire ↔ Measure.AllFit i.measures := by
  simp only [measures, Mint.measures, Measure.allFit_append, Measure.allFit_flatMap,
    Measure.allFit_cons, Measure.allFit_nil, and_true, Option.mem_toList, ← Deposit.fitsWire_iff]
  exact ⟨fun h => ⟨⟨h.genesis, h.deposit⟩, h.mint⟩,
    fun ⟨⟨genesis, deposit⟩, mint⟩ => ⟨genesis, deposit, mint⟩⟩

theorem Withdrawal.fitsWire_iff {version : UInt8} {w : Withdrawal} :
    w.FitsWire version ↔ Measure.AllFit (w.measures version) := by
  simp only [measures, Measure.allFit_append, Measure.allFit_ite, Measure.allFit_cons,
    Measure.allFit_nil, and_true, UInt8.lt_iff_toNat_lt]
  exact ⟨fun h => ⟨h.assetKey, h.address, h.tag⟩,
    fun ⟨assetKey, address, tag⟩ => ⟨assetKey, address, tag⟩⟩

theorem Output.fitsWire_iff {version : UInt8} {o : Output} :
    o.FitsWire version ↔ Measure.AllFit (o.measures version) := by
  simp only [measures, Measure.allFit_append, Measure.allFit_flatMap, Measure.allFit_cons,
    Measure.allFit_nil, and_true, Option.mem_toList, ← Withdrawal.fitsWire_iff]
  exact ⟨fun h => ⟨⟨h.keys, h.script⟩, h.withdrawal⟩,
    fun ⟨⟨keys, script⟩, withdrawal⟩ => ⟨keys, script, withdrawal⟩⟩

theorem Signatures.fitsWire_iff {signatures : Signatures} :
    signatures.FitsWire ↔ Measure.AllFit signatures.measures := by
  cases signatures with
  | groups gs =>
    rw [measures, Measure.allFit_cons, Measure.allFit_map]
    rfl
  | aggregated a => exact iff_of_true trivial Measure.allFit_nil

theorem Version.isBinary_iff {v : UInt8} : isBinary v ↔ 2 ≤ v.toNat ∧ v.toNat ≤ 5 := by
  simp only [isBinary, Bool.and_eq_true, decide_eq_true_eq, UInt8.le_iff_toNat_le]
  rfl

namespace Transaction

variable {tx : Transaction}

theorem fitsWire_iff : tx.FitsWire ↔ Measure.AllFit tx.measures := by
  simp only [measures, Measure.allFit_append, Measure.allFit_flatMap, Measure.allFit_ite,
    Measure.allFit_cons, Measure.allFit_nil, and_true, ← Input.fitsWire_iff,
    ← Output.fitsWire_iff, ← Signatures.fitsWire_iff, UInt8.le_iff_toNat_le]
  exact ⟨fun h => ⟨⟨⟨⟨⟨⟨h.inputCount, h.inputs⟩, h.outputCount⟩, h.outputs⟩, h.referenceCount⟩,
      h.extra⟩, h.signatures⟩,
    fun ⟨⟨⟨⟨⟨⟨inputCount, inputs⟩, outputCount⟩, outputs⟩, referenceCount⟩, extra⟩, signatures⟩ =>
      ⟨inputCount, inputs, outputCount, outputs, referenceCount, extra, signatures⟩⟩

theorem exists_writeBody_iff_fitsWire : (∃ b, Wire.writeBody tx = .ok b) ↔ tx.FitsWire :=
  (Wire.measured_body tx).exists_eq_ok_iff.trans fitsWire_iff.symm

/-- What can be written can be named. -/
theorem exists_payloadHash_of_fitsWire (hv : Version.isBinary tx.version)
    (h : tx.payload.FitsWire) : ∃ hash, tx.payloadHash = .ok hash := by
  obtain ⟨body, hbody⟩ := exists_writeBody_iff_fitsWire.mpr h
  have hwrite : Wire.write tx.payload = .ok (Wire.header tx.version ++ body) :=
    Wire.write_eq_ok_iff.mpr ⟨hv, body, hbody, rfl⟩
  rw [payloadHash, encodePayload, if_neg (Version.not_lt_binary_of_isBinary hv), hwrite]
  exact ⟨_, rfl⟩

/-- The signatures are written last, and whether they fit has nothing to do with the rest. -/
theorem FitsWire.of_payload (h : tx.payload.FitsWire) (hsigs : tx.signatures.FitsWire) :
    tx.FitsWire :=
  { h with signatures := hsigs }

theorem measured_encode (hv : Version.isBinary tx.version) :
    Wire.Measured tx.encode tx.measures := by
  rw [encode_of_isBinary hv, Wire.write, if_pos hv]
  exact (Wire.measured_body tx).bind_pure _

theorem encode_of_latest_lt (hv : 5 < tx.version.toNat) :
    tx.encode = .error (.unsupportedVersion tx.version) := by
  have hlegacy : ¬ tx.version < Version.binary := by
    rw [UInt8.lt_iff_toNat_lt]
    exact Nat.not_lt.mpr ((by decide : 2 ≤ 5).trans hv.le)
  have hbinary : ¬ Version.isBinary tx.version := by
    rw [Version.isBinary_iff]
    exact fun h => Nat.not_le.mpr hv h.2
  rw [encode, if_neg hlegacy, Wire.write, if_neg hbinary]

/-- A transaction is written if every length in it fits. Otherwise the first that does not, in the
order in which they are written, is the error, and a version after the latest is one by itself. -/
theorem exists_encode_iff_fitsWire (hv : 2 ≤ tx.version.toNat) :
    (tx.version.toNat ≤ 5 →
        ((∃ b, tx.encode = .ok b) ↔ tx.FitsWire) ∧
        (¬ tx.FitsWire → ∃ m, tx.measures.find? Measure.exceeds = some m ∧
          tx.encode = .error (.tooLong m.field m.length))) ∧
      (5 < tx.version.toNat → tx.encode = .error (.unsupportedVersion tx.version)) := by
  refine ⟨fun hlatest => ?_, encode_of_latest_lt⟩
  have hmeasured := measured_encode (Version.isBinary_iff.mpr ⟨hv, hlatest⟩)
  rw [fitsWire_iff]
  exact ⟨hmeasured.exists_eq_ok_iff, hmeasured.exists_eq_error⟩

/-- Genesis data and a script that are both too long. -/
def oversized (version : UInt8) : Transaction where
  version
  asset := Hash.zero
  inputs := [Input.ofGenesis (List.replicate 65536 0)]
  outputs := [Output.ofKeys Amount.zero [] Key.zero ⟨List.replicate 65537 0⟩]

theorem exists_encode_iff_fitsWire_oversized :
    2 ≤ (oversized 4).version.toNat ∧ (oversized 4).version.toNat ≤ 5 ∧
      ¬ (oversized 4).FitsWire ∧
      (oversized 4).encode = .error (.tooLong "genesis" 65536) ∧
      (oversized 6).encode = .error (.unsupportedVersion 6) := by
  have hlong : ¬ (oversized 4).FitsWire := by
    intro h
    have hgenesis := (h.inputs _ (List.mem_singleton_self _)).genesis
    rw [Input.ofGenesis, List.length_replicate] at hgenesis
    exact absurd hgenesis (by decide)
  obtain ⟨_, herror⟩ := (@exists_encode_iff_fitsWire (oversized 4) (by decide)).1 (by decide)
  obtain ⟨m, hfirst, herror⟩ := herror hlong
  obtain ⟨rest, hmeasures⟩ : ∃ rest, (oversized 4).measures =
      .short "inputs" 1 :: .short "genesis" (List.replicate 65536 (0 : UInt8)).length :: rest :=
    ⟨_, rfl⟩
  rw [hmeasures, List.length_replicate, List.find?_cons_of_neg (by decide),
    List.find?_cons_of_pos (by decide)] at hfirst
  obtain rfl := Option.some.inj hfirst
  exact ⟨by decide, by decide, hlong, herror,
    (exists_encode_iff_fitsWire (by decide)).2 (by decide)⟩

end Transaction

end KernelWallet
