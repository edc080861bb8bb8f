import KernelWallet.Proofs.Payment.Plan
import KernelWallet.Proofs.Session
import KernelWallet.Proofs.Validation
import KernelWallet.Proofs.Wire.Fits

/-! What a blueprint builds: one output to each planned output, and a transaction that passes the
checks and is sealed under its hash. -/

namespace KernelWallet

/-- The output pays so many units to an address: any `threshold` of as many keys as the address has
members can spend it. -/
structure Output.Pays (o : Output) (a : MixAddress) (units : Nat) : Prop where
  kind : o.kind = .script
  units : o.amount.units = units
  script : o.script = Script.ofThreshold a.threshold
  keys : o.keys.length = a.members.length
  withdrawal : o.withdrawal = none

theorem Output.Pays.wellFormed {E : Curve} {o : Output} {a : MixAddress} {units : Nat}
    (h : o.Pays a units) (hunits : units ≠ 0)
    (hpoints : ∀ k ∈ o.mask :: o.keys, k.isPoint E = true) : o.WellFormed E := by
  have hkind : o.kind = .withdrawalSubmit ↔ o.withdrawal.isSome = true := by
    simp [h.kind, h.withdrawal]
  refine ⟨h.units ▸ hunits, hkind, fun _ => ?_, fun _ => hpoints⟩
  rw [h.script, h.keys, Script.check_ofThreshold_eq_ok_iff]
  exact ⟨a.threshold_pos, a.threshold_le.trans a.members_le, a.threshold_le⟩

theorem Output.Pays.fitsWire {o : Output} {a : MixAddress} {units : Nat} (h : o.Pays a units)
    (version : UInt8) : o.FitsWire version where
  keys := h.keys ▸ a.members_le.trans (by decide)
  script := by
    rw [h.script]
    exact (by decide : 3 ≤ 65535)
  withdrawal := h.withdrawal ▸ nofun

/-- The address of so many user ids, all of whom have to sign. -/
def MixAddress.team (members : Nat) (h : 1 ≤ members ∧ members ≤ 64) : MixAddress where
  threshold := UInt8.ofNat members
  members := .uuid (List.replicate members ⟨Vector.replicate 16 7⟩)
  threshold_pos := by
    rw [UInt8.toNat_ofNat', Nat.mod_eq_of_lt (by omega)]
    exact h.1
  threshold_le := by
    rw [UInt8.toNat_ofNat', Nat.mod_eq_of_lt (by omega)]
    simp [MixMembers.length]
  members_le := by simpa [MixMembers.length, MixAddress.maxMembers] using h.2

def MixAddress.alone : MixAddress :=
  team 1 (by decide)

def MixAddress.pair : MixAddress :=
  team 2 (by decide)

variable {E : Curve}

theorem Session.run_sealBody_draft_eq_ok_iff {tx : Transaction} {hash : Hash} {s : Session} :
    (sealBody E).run (draft tx) = .ok hash s ↔
      tx.validate E = .ok () ∧ tx.payloadHash = .ok hash ∧ s = ⟨tx, .built, some hash⟩ := by
  rw [run_sealBody]
  simp only [draft]
  cases tx.validate E with
  | error e => simp
  | ok u =>
    cases tx.payloadHash with
    | error e => simp
    | ok hash' =>
      simp only [TxState.canAdvanceTo, if_true, EStateM.Result.ok.injEq, Except.ok.injEq, true_and]
      exact and_congr_right fun h => by rw [h, eq_comm]

theorem Spendable.outpoints_map_input (inputs : List Spendable) :
    Input.outpoints (inputs.map Spendable.input) =
      inputs.map fun i => (i.transaction, i.index) := by
  rw [Input.outpoints, List.filter_eq_self.mpr, List.map_map]
  · rfl
  · intro i hi
    obtain ⟨s, _, rfl⟩ := List.mem_map.mp hi
    rfl

namespace Blueprint

/-- The transaction of a blueprint before it is sealed. -/
def transaction (b : Blueprint) (outputs : List Output) : Transaction :=
  { version := b.version, asset := b.asset, inputs := b.inputs.map Spendable.input, outputs,
    references := b.references, extra := b.extra,
    signatures := .groups (List.replicate b.inputs.length SignerMap.empty) }

section

variable {version : UInt8} {expected : Nat} {fetched : List GhostKeys} {e : Entropy}
  {position : Nat} {out : PlannedOutput} {planned : List PlannedOutput} {made : List Output}

theorem outputsFrom_cons_eq_ok_iff :
    outputsFrom E version expected fetched e position (out :: planned) = .ok made ↔
      ∃ g fetched' e' rest,
        outputKeys E version expected fetched e position out.address.members =
          .ok (g, fetched', e') ∧
        g.keys.length = out.address.members.length ∧
        outputsFrom E version expected fetched' e' (position + 1) planned = .ok rest ∧
        made = Output.ofKeys out.amount g.keys g.mask
          (Script.ofThreshold out.address.threshold) :: rest := by
  simp only [outputsFrom, bind_eq_ok_iff, guard_bind_eq_ok_iff, not_not]
  constructor
  · rintro ⟨⟨g, fetched', e'⟩, hg, hkeys, rest, hrest, h⟩
    exact ⟨g, fetched', e', rest, hg, hkeys, hrest, (Except.ok.inj h).symm⟩
  · rintro ⟨g, fetched', e', rest, hg, hkeys, hrest, rfl⟩
    exact ⟨⟨g, fetched', e'⟩, hg, hkeys, rest, hrest, rfl⟩

theorem pays_of_outputsFrom
    (h : outputsFrom E version expected fetched e position planned = .ok made) :
    List.Forall₂ (fun o out => o.Pays out.address out.amount.units) made planned := by
  induction planned generalizing fetched e position made with
  | nil =>
    obtain rfl := Except.ok.inj h
    exact .nil
  | cons out planned ih =>
    obtain ⟨g, fetched', e', rest, _, hkeys, hrest, rfl⟩ := outputsFrom_cons_eq_ok_iff.mp h
    exact .cons ⟨rfl, rfl, rfl, hkeys, rfl⟩ (ih hrest)

end

theorem build_eq_ok_iff {b : Blueprint} {fetched : List GhostKeys} {e : Entropy} {s : Session} :
    b.build E fetched e = .ok s ↔
      fetched.length = b.outputs.countP (·.address.uuids?.isSome) ∧
        ∃ outputs hash,
          outputsFrom E b.version (b.outputs.countP (·.address.uuids?.isSome)) fetched e 0
            b.outputs = .ok outputs ∧
          (b.transaction outputs).validate E = .ok () ∧
          (b.transaction outputs).payloadHash = .ok hash ∧
          s = ⟨b.transaction outputs, .built, some hash⟩ := by
  simp only [build, guard_bind_eq_ok_iff, not_not, bind_eq_ok_iff]
  refine and_congr_right fun _ => exists_congr fun outputs => ?_
  rw [exists_and_left]
  refine and_congr_right fun _ => ?_
  simp only [← Session.run_sealBody_draft_eq_ok_iff, transaction]
  split
  · next hash session hrun => simp [hrun, pure, Except.pure]
  · next e session hrun => simp [hrun, throw, throwThe, MonadExceptOf.throw]

section

variable {b : Blueprint} {outputs : List Output}

theorem wellFormed_transaction (hb : b.Planned) (hv : Version.isBinary b.version)
    (hdistinct : (b.inputs.map fun i => (i.transaction, i.index)).Nodup)
    (hrefs : b.references = [] ∨ Version.references ≤ b.version)
    (hpays : List.Forall₂ (fun o out => o.Pays out.address out.amount.units) outputs b.outputs)
    (hpoints : ∀ o ∈ outputs, ∀ k ∈ o.mask :: o.keys, k.isPoint E = true) :
    (b.transaction outputs).WellFormed E where
  version := by
    rw [Version.isBinary, Bool.and_eq_true] at hv
    exact of_decide_eq_true hv.2
  inputs_ne := mt List.map_eq_nil_iff.mp hb.inputs_ne
  inputs_le := by
    rw [transaction, List.length_map]
    exact hb.inputs_le
  outputs_ne h := by
    obtain rfl : outputs = [] := h
    exact hb.outputs_ne (List.forall₂_nil_left_iff.mp hpays)
  outputs_le := hpays.length_eq.trans_le hb.outputs_le
  references := hrefs.imp_right fun h => ⟨h, hb.references_le⟩
  extra := hb.extra_le.trans (Transaction.extra_le_extraLimit _)
  shapes i hi := by
    obtain ⟨s, _, rfl⟩ := List.mem_map.mp hi
    rfl
  distinct := by
    rw [transaction, Spendable.outpoints_map_input]
    exact hdistinct
  outputs o ho := by
    obtain ⟨out, hout, h⟩ := exists_of_forall₂ hpays ho
    exact h.wellFormed (hb.units out hout) (hpoints o ho)

theorem exists_payloadHash_transaction (hb : b.Planned) (hv : Version.isBinary b.version)
    (hpays : List.Forall₂ (fun o out => o.Pays out.address out.amount.units) outputs b.outputs) :
    ∃ hash, (b.transaction outputs).payloadHash = .ok hash := by
  have hin : (b.inputs.map Spendable.input).length ≤ 256 := by
    rw [List.length_map]
    exact hb.inputs_le
  have hout : outputs.length ≤ 256 := hpays.length_eq.trans_le hb.outputs_le
  have hrefs : b.references.length ≤ 2 := hb.references_le
  have hextra : b.extra.length ≤ 256 := hb.extra_le
  refine Transaction.exists_payloadHash_of_fitsWire hv {
    inputCount := hin.trans (by decide)
    inputs := fun i hi => ?_
    outputCount := hout.trans (by decide)
    outputs := fun o ho => ?_
    referenceCount := fun _ => hrefs.trans (by decide)
    extra := ?_
    signatures := ⟨Nat.zero_le _, nofun⟩ }
  · obtain ⟨s, _, rfl⟩ := List.mem_map.mp hi
    exact ⟨Nat.zero_le _, nofun, nofun⟩
  · obtain ⟨out, _, h⟩ := exists_of_forall₂ hpays ho
    exact h.fitsWire b.version
  · change b.extra.length ≤ _
    split <;> omega

/-- What was planned is built once there are keys for it. -/
theorem exists_build_of_outputsFrom {fetched : List GhostKeys} {e : Entropy} (hb : b.Planned)
    (hv : Version.isBinary b.version)
    (hdistinct : (b.inputs.map fun i => (i.transaction, i.index)).Nodup)
    (hrefs : b.references = [] ∨ Version.references ≤ b.version)
    (hcount : fetched.length = b.outputs.countP (·.address.uuids?.isSome))
    (houtputs : outputsFrom E b.version (b.outputs.countP (·.address.uuids?.isSome)) fetched e 0
      b.outputs = .ok outputs)
    (hpoints : ∀ o ∈ outputs, ∀ k ∈ o.mask :: o.keys, k.isPoint E = true) :
    ∃ hash, b.build E fetched e = .ok ⟨b.transaction outputs, .built, some hash⟩ := by
  have hpays := pays_of_outputsFrom houtputs
  have hwell := wellFormed_transaction hb hv hdistinct hrefs hpays hpoints
  obtain ⟨hash, hhash⟩ := exists_payloadHash_transaction hb hv hpays
  exact ⟨hash, build_eq_ok_iff.mpr ⟨hcount, outputs, hash, houtputs,
    Transaction.validate_eq_ok_iff.mpr hwell, hhash, rfl⟩⟩

end

end Blueprint

end KernelWallet
