import KernelWallet.Curve.Ed25519
import KernelWallet.Proofs.Curve
import KernelWallet.Proofs.Validation.Acceptance
import KernelWallet.Proofs.Wire.ReadsBack

/-! How much extra a transaction may carry. The storage that its first output pays for is counted in
steps, and neither the width of the count nor the cap on the product shows in the limit. What the
limit admits, the reader of the big-endian form takes back. -/

namespace KernelWallet

/-- The cap is reached long before the count of steps is at its greatest. -/
theorem Amount.min_count_mul {a step : Amount} {size cap : Nat} (h : cap ≤ (2 ^ 64 - 1) * size) :
    min (a.count step * size) cap = min (a.units / step.units * size) cap := by
  rw [count]
  rcases Nat.le_total (a.units / step.units) (2 ^ 64 - 1) with hle | hle
  · rw [Nat.min_eq_left hle]
  · have hunits : cap ≤ a.units / step.units * size := h.trans (Nat.mul_le_mul_right size hle)
    rw [Nat.min_eq_right hle, Nat.min_eq_right h, Nat.min_eq_right hunits]

namespace Transaction

/-- The output pays for a step of storage at least: it is one of a storage transaction, plain, for
one key under the script of threshold one, and holds the price of a step. -/
structure BuysStorage (tx : Transaction) (out : Output) : Prop where
  version : 4 ≤ tx.version
  asset : tx.asset = Hash.xinAsset
  kind : out.kind = .script
  key : ∃ k, out.keys = [k]
  script : out.script.bytes = [0xff, 0xfe, 0x01]
  price : 100000 ≤ out.amount.units

variable {E : Curve} {tx : Transaction} {out : Output} {rest : List Output}

theorem buysStorage_iff :
    tx.BuysStorage out ↔ Version.references ≤ tx.version ∧ tx.asset = Hash.xinAsset ∧
      out.kind = .script ∧ out.keys.length = 1 ∧ out.script = Script.ofThreshold 1 ∧
      (Amount.ofUInt64 Limit.stepPrice).units ≤ out.amount.units := by
  constructor
  · rintro ⟨hversion, hasset, hkind, hkey, hscript, hprice⟩
    exact ⟨hversion, hasset, hkind, List.length_eq_one_iff.mpr hkey, congrArg Script.mk hscript,
      hprice⟩
  · rintro ⟨hversion, hasset, hkind, hkey, hscript, hprice⟩
    exact ⟨hversion, hasset, hkind, List.length_eq_one_iff.mp hkey, congrArg Script.bytes hscript,
      hprice⟩

/-- An output pays no less with more in it. -/
theorem BuysStorage.mono {a b : Amount} (h : tx.BuysStorage { out with amount := a })
    (hle : a.units ≤ b.units) : tx.BuysStorage { out with amount := b } :=
  { h with price := h.price.trans hle }

theorem extraLimit_of_buysStorage (houts : tx.outputs = out :: rest) (h : tx.BuysStorage out) :
    tx.extraLimit = min (out.amount.units / 100000 * 1024) 4194304 := by
  simp only [extraLimit, houts]
  rw [if_pos (buysStorage_iff.mp h)]
  exact Amount.min_count_mul (by decide)

theorem extraLimit_of_not_buysStorage (h : ∀ out ∈ tx.outputs.head?, ¬ tx.BuysStorage out) :
    tx.extraLimit = 256 := by
  rw [extraLimit]
  split
  · rfl
  · next out _ houts =>
    rw [houts] at h
    exact if_neg (mt buysStorage_iff.mpr (h out rfl))

theorem extraLimit_of_lt_references (h : tx.version < Version.references) : tx.extraLimit = 256 :=
  extraLimit_of_not_buysStorage fun _ _ hbuys => UInt8.not_le.mpr h hbuys.version

/-- More in the first output is either more storage paid for, or the first to pay for any. -/
theorem extraLimit_mono (out : Output) (rest : List Output) {a b : Amount}
    (hle : a.units ≤ b.units) :
    { tx with outputs := { out with amount := a } :: rest }.extraLimit ≤
      { tx with outputs := { out with amount := b } :: rest }.extraLimit := by
  by_cases h : { tx with outputs := { out with amount := a } :: rest }.BuysStorage
      { out with amount := a }
  · have h' : { tx with outputs := { out with amount := b } :: rest }.BuysStorage
        { out with amount := b } := { h.mono hle with }
    have hsteps : a.units / 100000 ≤ b.units / 100000 := Nat.div_le_div_right hle
    rw [extraLimit_of_buysStorage rfl h, extraLimit_of_buysStorage rfl h']
    exact Nat.le_min.mpr ⟨(Nat.min_le_left _ _).trans (Nat.mul_le_mul_right 1024 hsteps),
      Nat.min_le_right _ _⟩
  · have hplain : { tx with outputs := { out with amount := a } :: rest }.extraLimit = 256 := by
      refine extraLimit_of_not_buysStorage fun o ho => ?_
      obtain rfl := Option.some.inj ho
      exact h
    rw [hplain]
    exact extra_le_extraLimit _

/-- The two bytes of an early length hold any extra that is admitted without storage. -/
theorem WellFormed.exists_writeExtra (h : tx.WellFormed E) :
    ∃ b, Wire.writeExtra tx.version tx.extra = .ok b ∧
      Reads (Wire.readExtra tx.version) b tx.extra := by
  obtain ⟨b, hb⟩ : ∃ b, Wire.writeExtra tx.version tx.extra = .ok b := by
    rw [Wire.writeExtra]
    split
    · have hlt : tx.extra.length < 2 ^ 32 := h.extra_le.trans_lt (by decide)
      rw [if_pos hlt]
      exact ⟨_, rfl⟩
    · next hv =>
      have hlimit := extraLimit_of_lt_references (UInt8.not_le.mp hv)
      have hlt : tx.extra.length < 2 ^ 16 := h.extra.trans_lt (by rw [hlimit]; decide)
      rw [Wire.writeBytes, Wire.writeCount_eq_ok_iff.mpr ⟨hlt, rfl⟩]
      exact ⟨_, rfl⟩
  exact ⟨b, hb, Wire.reads_extra h.extra_le hb⟩

/-- The limit is what the storage paid for comes to, or the general one if none is paid for. It
grows with the first output, and an extra within it is written and read back whatever follows it. -/
theorem extraLimit_follows_storage (E : Curve) (tx : Transaction) :
    (∀ out ∈ tx.outputs.head?, tx.BuysStorage out →
        tx.extraLimit = min (out.amount.units / 100000 * 1024) 4194304) ∧
      ((∀ out ∈ tx.outputs.head?, ¬ tx.BuysStorage out) → tx.extraLimit = 256) ∧
      256 ≤ tx.extraLimit ∧ tx.extraLimit ≤ 4194304 ∧
      (∀ (out : Output) (rest : List Output) (a b : Amount), a.units ≤ b.units →
        { tx with outputs := { out with amount := a } :: rest }.extraLimit ≤
          { tx with outputs := { out with amount := b } :: rest }.extraLimit) ∧
      (tx.validate E = .ok () →
        (∃ b, Wire.writeExtra tx.version tx.extra = .ok b ∧
          Reads (Wire.readExtra tx.version) b tx.extra) ∧
        (Version.isBinary tx.version → ∀ b, tx.encode = .ok b → decode b = .ok tx.onWire)) := by
  refine ⟨fun out hout h => ?_, extraLimit_of_not_buysStorage, tx.extra_le_extraLimit,
    tx.extraLimit_le_storageCapacity, fun out rest a b => extraLimit_mono out rest,
    fun hvalid => ?_⟩
  · obtain ⟨rest, houts⟩ := List.head?_eq_some_iff.mp hout
    exact extraLimit_of_buysStorage houts h
  · have hwell := validate_eq_ok_iff.mp hvalid
    refine ⟨hwell.exists_writeExtra, fun hv b hb => ?_⟩
    rw [encode_of_isBinary hv] at hb
    obtain ⟨_, body, hbody, rfl⟩ := Wire.write_eq_ok_iff.mp hb
    exact decode_header_append hv hwell.extra_le hbody

/-- An output of `units` units for the key of the neutral point. -/
def storageOutput (units : Amount) : Output :=
  let key := Key.ofPoint Curve.ed25519 Curve.ed25519.zero
  Output.ofKeys units [key] key (Script.ofThreshold 1)

/-- As much extra as there can be, paid for with all that an amount can hold. -/
def filling : Transaction where
  version := 4
  asset := Hash.xinAsset
  inputs := [Input.ofOutput Hash.zero 0]
  outputs := [storageOutput ⟨2 ^ 256 - 1, by decide⟩]
  extra := List.replicate 4194304 7

theorem buysStorage_filling : filling.BuysStorage (storageOutput ⟨2 ^ 256 - 1, by decide⟩) where
  version := by decide
  asset := rfl
  kind := rfl
  key := ⟨_, rfl⟩
  script := rfl
  price := by decide

theorem wellFormed_storageOutput {units : Amount} (h : units.units ≠ 0) :
    (storageOutput units).WellFormed Curve.ed25519 where
  units := h
  withdrawal := ⟨nofun, nofun⟩
  script _ := Script.check_ofThreshold_eq_ok_iff.mpr ⟨le_rfl, by decide, le_rfl⟩
  points _ := by
    refine List.forall_mem_cons.mpr ⟨Key.isPoint_zero_ed25519, ?_⟩
    exact List.forall_mem_singleton.mpr Key.isPoint_zero_ed25519

theorem extraLimit_follows_storage_filling :
    filling.BuysStorage (storageOutput ⟨2 ^ 256 - 1, by decide⟩) ∧ filling.extraLimit = 4194304 ∧
      filling.validate Curve.ed25519 = .ok () ∧
      ∃ b, Wire.writeExtra 4 filling.extra = .ok b ∧
        Reads (Wire.readExtra 4) b filling.extra := by
  obtain ⟨hpaid, _, _, _, _, hread⟩ := extraLimit_follows_storage Curve.ed25519 filling
  have hlimit : filling.extraLimit = 4194304 := by
    rw [hpaid _ rfl buysStorage_filling]
    decide
  have hvalid : filling.validate Curve.ed25519 = .ok () := by
    refine validate_eq_ok_iff.mpr
      { version := by decide
        inputs_ne := nofun
        inputs_le := by decide
        outputs_ne := nofun
        outputs_le := by decide
        references := .inl rfl
        extra := ?_
        shapes := by decide
        distinct := by decide
        outputs := List.forall_mem_singleton.mpr (wellFormed_storageOutput (by decide)) }
    rw [hlimit, filling, List.length_replicate]
  exact ⟨buysStorage_filling, hlimit, hvalid, (hread hvalid).1⟩

end Transaction

end KernelWallet
