import KernelWallet.Proofs.Validation

/-! The transactions that the checks accept, told by their fields alone. -/

namespace KernelWallet

namespace Script

variable {s : Script} {t : UInt8} {keys : Nat}

theorem eq_ofThreshold_of_threshold (h : s.threshold = .ok t) : s = ofThreshold t := by
  obtain ⟨bytes⟩ := s
  rw [threshold.eq_def] at h
  split at h
  · next t' hbytes =>
    split at h
    · cases h
    · obtain rfl := Except.ok.inj h
      exact congrArg Script.mk hbytes
  · cases h

theorem check_eq_ok_iff :
    s.check keys = .ok () ↔
      ∃ t : UInt8, s.bytes = [0xff, 0xfe, t] ∧ 1 ≤ t.toNat ∧ t.toNat ≤ 64 ∧ t.toNat ≤ keys := by
  constructor
  · intro h
    obtain ⟨t, ht, _⟩ := bind_eq_ok_iff.mp h
    obtain rfl := eq_ofThreshold_of_threshold ht
    exact ⟨t, rfl, check_ofThreshold_eq_ok_iff.mp h⟩
  · rintro ⟨t, hbytes, ht⟩
    obtain rfl : s = ofThreshold t := congrArg Script.mk hbytes
    exact check_ofThreshold_eq_ok_iff.mpr ht

end Script

namespace Input

/-- The input has neither genesis data nor a deposit nor a mint. -/
def SpendsOutput (i : Input) : Prop :=
  i.genesis = [] ∧ i.deposit = none ∧ i.mint = none

/-- The input has at most one of genesis data, a deposit and a mint, and names no transaction if it
has one. -/
structure IsExclusive (i : Input) : Prop where
  genesis : i.genesis ≠ [] → i.deposit = none ∧ i.mint = none
  deposit : i.deposit ≠ none → i.mint = none
  hash : ¬ i.SpendsOutput → i.hash = Hash.zero

variable {i : Input} {inputs : List Input}

theorem extraShapes_eq_zero_iff : i.extraShapes = 0 ↔ i.SpendsOutput := by
  obtain ⟨hash, index, genesis, deposit, mint⟩ := i
  cases genesis <;> cases deposit <;> cases mint <;> simp [extraShapes, SpendsOutput]

theorem extraShapes_eq_one_iff (h : ¬ i.SpendsOutput) :
    i.extraShapes = 1 ↔
      (i.genesis ≠ [] → i.deposit = none ∧ i.mint = none) ∧ (i.deposit ≠ none → i.mint = none) := by
  obtain ⟨hash, index, genesis, deposit, mint⟩ := i
  cases genesis <;> cases deposit <;> cases mint <;> simp_all [extraShapes, SpendsOutput]

theorem hasOneShape_iff : i.hasOneShape = true ↔ i.IsExclusive := by
  rw [hasOneShape, Bool.or_eq_true, Bool.and_eq_true, decide_eq_true_eq, decide_eq_true_eq,
    decide_eq_true_eq, extraShapes_eq_zero_iff]
  by_cases hspends : i.SpendsOutput
  · exact iff_of_true (.inl hspends)
      ⟨fun _ => hspends.2, fun _ => hspends.2.2, fun h => absurd hspends h⟩
  · rw [extraShapes_eq_one_iff hspends]
    constructor
    · rintro (h | ⟨⟨hgenesis, hdeposit⟩, hhash⟩)
      · exact absurd h hspends
      · exact ⟨hgenesis, hdeposit, fun _ => hhash⟩
    · exact fun h => .inr ⟨⟨h.genesis, h.deposit⟩, h.hash hspends⟩

theorem nodup_outpoints_iff :
    (outpoints inputs).Nodup ↔ inputs.Pairwise fun i j =>
      i.SpendsOutput → j.SpendsOutput → ¬ (i.hash = j.hash ∧ i.index = j.index) := by
  rw [outpoints, List.Nodup, List.pairwise_map, List.pairwise_filter]
  simp only [decide_eq_true_eq, extraShapes_eq_zero_iff, ne_eq, Prod.mk.injEq]

end Input

namespace Output

variable {E : Curve} {out : Output}

/-- The output gives something away, names a withdrawal exactly if it makes one, and can be spent
under its script if it has one. -/
structure IsSound (E : Curve) (out : Output) : Prop where
  amount : out.amount.units ≠ 0
  withdrawal : out.withdrawal ≠ none ↔ out.kind = .withdrawalSubmit
  script : out.kind = .script → ∃ t : UInt8, out.script.bytes = [0xff, 0xfe, t] ∧
    1 ≤ t.toNat ∧ t.toNat ≤ 64 ∧ t.toNat ≤ out.keys.length
  mask : out.kind = .script → (E.decompress out.mask.bytes).isSome = true
  keys : out.kind = .script → ∀ k ∈ out.keys, (E.decompress k.bytes).isSome = true

theorem wellFormed_iff_isSound : out.WellFormed E ↔ out.IsSound E := by
  have hsome : out.withdrawal.isSome = true ↔ out.withdrawal ≠ none := Option.isSome_iff_ne_none
  constructor
  · intro h
    have hpoints := fun hkind => List.forall_mem_cons.mp (h.points hkind)
    exact ⟨h.units, (h.withdrawal.trans hsome).symm,
      fun hkind => Script.check_eq_ok_iff.mp (h.script hkind), fun hkind => (hpoints hkind).1,
      fun hkind => (hpoints hkind).2⟩
  · intro h
    exact ⟨h.amount, (hsome.trans h.withdrawal).symm,
      fun hkind => Script.check_eq_ok_iff.mpr (h.script hkind),
      fun hkind => List.forall_mem_cons.mpr ⟨h.mask hkind, h.keys hkind⟩⟩

end Output

namespace Transaction

variable {E : Curve} {tx : Transaction}

structure IsAcceptable (E : Curve) (tx : Transaction) : Prop where
  version : tx.version.toNat ≤ 5
  inputs_length : 1 ≤ tx.inputs.length ∧ tx.inputs.length ≤ 256
  outputs_length : 1 ≤ tx.outputs.length ∧ tx.outputs.length ≤ 256
  references : tx.references = [] ∨ 4 ≤ tx.version.toNat ∧ tx.references.length ≤ 2
  extra : tx.extra.length ≤ tx.extraLimit
  exclusive : ∀ i ∈ tx.inputs, i.IsExclusive
  distinct : tx.inputs.Pairwise fun i j =>
    i.SpendsOutput → j.SpendsOutput → ¬ (i.hash = j.hash ∧ i.index = j.index)
  outputs : ∀ out ∈ tx.outputs, out.IsSound E

theorem wellFormed_iff_isAcceptable : tx.WellFormed E ↔ tx.IsAcceptable E := by
  have hin : tx.inputs ≠ [] ↔ 1 ≤ tx.inputs.length := List.length_pos_iff.symm
  have hout : tx.outputs ≠ [] ↔ 1 ≤ tx.outputs.length := List.length_pos_iff.symm
  have hversion : tx.version ≤ Version.latest ↔ tx.version.toNat ≤ 5 := UInt8.le_iff_toNat_le
  have hrefs : Version.references ≤ tx.version ↔ 4 ≤ tx.version.toNat := UInt8.le_iff_toNat_le
  constructor
  · intro h
    exact ⟨hversion.mp h.version, ⟨hin.mp h.inputs_ne, h.inputs_le⟩,
      ⟨hout.mp h.outputs_ne, h.outputs_le⟩, h.references.imp_right (And.imp_left hrefs.mp), h.extra,
      fun i hi => Input.hasOneShape_iff.mp (h.shapes i hi),
      Input.nodup_outpoints_iff.mp h.distinct,
      fun out hmem => Output.wellFormed_iff_isSound.mp (h.outputs out hmem)⟩
  · intro h
    exact ⟨hversion.mpr h.version, hin.mpr h.inputs_length.1, h.inputs_length.2,
      hout.mpr h.outputs_length.1, h.outputs_length.2,
      h.references.imp_right (And.imp_left hrefs.mpr), h.extra,
      fun i hi => Input.hasOneShape_iff.mpr (h.exclusive i hi),
      Input.nodup_outpoints_iff.mpr h.distinct,
      fun out hmem => Output.wellFormed_iff_isSound.mpr (h.outputs out hmem)⟩

/-- The checks pass for the acceptable transactions and no others: none of these is refused, and no
output is spent twice by one of them. -/
theorem validate_iff_isAcceptable (E : Curve) (tx : Transaction) :
    tx.validate E = .ok () ↔ tx.IsAcceptable E :=
  validate_eq_ok_iff.trans wellFormed_iff_isAcceptable

end Transaction

end KernelWallet
