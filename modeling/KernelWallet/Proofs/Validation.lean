import KernelWallet.Proofs.Amount
import KernelWallet.Transaction.Validation

/-! What the checks of a transaction say when all of them pass. -/

namespace KernelWallet

theorem Script.check_ofThreshold_eq_ok_iff {t : UInt8} {keys : Nat} :
    (ofThreshold t).check keys = .ok () ↔ 1 ≤ t.toNat ∧ t.toNat ≤ 64 ∧ t.toNat ≤ keys := by
  have hrange : t = 0 ∨ maxThreshold < t ↔ ¬ (1 ≤ t.toNat ∧ t.toNat ≤ 64) := by
    have hmax : maxThreshold.toNat = 64 := rfl
    rw [← UInt8.toNat_inj, UInt8.lt_iff_toNat_lt, hmax, UInt8.toNat_zero]
    omega
  rw [check, threshold, ofThreshold]
  simp only [hrange, bind_eq_ok_iff, guard_eq_ok_iff, ite_not, Nat.not_lt]
  by_cases h : 1 ≤ t.toNat ∧ t.toNat ≤ 64
  · simp [h]
  · simp only [h, if_false]
    exact ⟨nofun, fun ⟨hpos, hmax, _⟩ => absurd ⟨hpos, hmax⟩ h⟩

namespace Output

/-- The output gives something away, to a withdrawal if it is one and to keys that can be met if it
has a script. -/
structure WellFormed (E : Curve) (out : Output) : Prop where
  units : out.amount.units ≠ 0
  withdrawal : out.kind = .withdrawalSubmit ↔ out.withdrawal.isSome = true
  script : out.kind = .script → out.script.check out.keys.length = .ok ()
  points : out.kind = .script → ∀ k ∈ out.mask :: out.keys, k.isPoint E = true

variable {E : Curve} {out : Output} {outputs : List Output} {position : Nat}

theorem check_eq_ok_iff : out.check E position = .ok () ↔ out.WellFormed E := by
  simp only [check, guard_bind_eq_ok_iff, Amount.isZero_iff, bne_iff_ne, ne_eq, not_not]
  rw [Bool.eq_iff_iff, beq_iff_eq]
  by_cases hkind : out.kind = .script
  · simp only [hkind, if_true]
    rw [check_bind_eq_ok_iff, mapError_eq_ok_iff, guard_eq_ok_iff]
    constructor
    · rintro ⟨hunits, hwithdrawal, hscript, hpoints⟩
      exact ⟨hunits, hkind ▸ hwithdrawal, fun _ => hscript, fun _ => by simpa using hpoints⟩
    · rintro ⟨hunits, hwithdrawal, hscript, hpoints⟩
      exact ⟨hunits, hkind ▸ hwithdrawal, hscript hkind, by simpa using hpoints hkind⟩
  · simp only [hkind, if_false]
    constructor
    · rintro ⟨hunits, hwithdrawal, _⟩
      exact ⟨hunits, hwithdrawal, fun h => absurd h hkind, fun h => absurd h hkind⟩
    · rintro ⟨hunits, hwithdrawal, _, _⟩
      exact ⟨hunits, hwithdrawal, rfl⟩

theorem checkFrom_eq_ok_iff :
    checkFrom E position outputs = .ok () ↔ ∀ out ∈ outputs, out.WellFormed E := by
  induction outputs generalizing position with
  | nil => exact iff_of_true rfl nofun
  | cons out outputs ih =>
    rw [checkFrom, check_bind_eq_ok_iff, check_eq_ok_iff, ih, List.forall_mem_cons]

end Output

namespace Input

/-- The outputs that inputs spend, those without genesis data, deposit and mint. -/
def outpoints (inputs : List Input) : List (Hash × UInt8) :=
  (inputs.filter fun i => i.extraShapes = 0).map fun i => (i.hash, i.index)

theorem outpoints_cons_of_eq {input : Input} (h : input.extraShapes = 0) (inputs : List Input) :
    outpoints (input :: inputs) = (input.hash, input.index) :: outpoints inputs := by
  simp [outpoints, h]

theorem outpoints_cons_of_ne {input : Input} (h : input.extraShapes ≠ 0) (inputs : List Input) :
    outpoints (input :: inputs) = outpoints inputs := by
  simp [outpoints, h]

/-- What has been seen grows by the outpoints that are met, so that they differ from it and from
each other. -/
theorem checkFrom_eq_ok_iff {inputs : List Input} {position : Nat} {seen : List (Hash × UInt8)} :
    checkFrom position seen inputs = .ok () ↔ (∀ i ∈ inputs, i.hasOneShape = true) ∧
      (outpoints inputs).Nodup ∧ ∀ o ∈ outpoints inputs, o ∉ seen := by
  induction inputs generalizing position seen with
  | nil => simp [checkFrom, outpoints]
  | cons input inputs ih =>
    rw [checkFrom, List.forall_mem_cons]
    by_cases hshape : input.hasOneShape = true
    · rw [if_neg (by simp [hshape]), and_iff_right hshape]
      by_cases hextra : input.extraShapes = 0
      · rw [if_neg (not_not.mpr hextra), outpoints_cons_of_eq hextra, List.nodup_cons,
          List.forall_mem_cons]
        by_cases hseen : (input.hash, input.index) ∈ seen
        · simp [hseen]
        · -- The rest has to differ from this outpoint too, which is the new part of distinctness.
          have hfresh : (∀ o ∈ outpoints inputs, o ∉ (input.hash, input.index) :: seen) ↔
              (input.hash, input.index) ∉ outpoints inputs ∧ ∀ o ∈ outpoints inputs, o ∉ seen := by
            simp only [List.mem_cons, not_or, forall_and]
            exact and_congr_left' ⟨fun h hmem => h _ hmem rfl, fun h o ho heq => h (heq ▸ ho)⟩
          rw [if_neg hseen, ih, hfresh, and_iff_right hseen, and_left_comm (a := List.Nodup _),
            and_assoc]
      · rw [if_pos hextra, outpoints_cons_of_ne hextra, ih]
    · simp [hshape]

end Input

namespace Transaction

/-- What the checks of a transaction ask for. -/
structure WellFormed (E : Curve) (tx : Transaction) : Prop where
  version : tx.version ≤ Version.latest
  inputs_ne : tx.inputs ≠ []
  inputs_le : tx.inputs.length ≤ Limit.slices
  outputs_ne : tx.outputs ≠ []
  outputs_le : tx.outputs.length ≤ Limit.slices
  references : tx.references = [] ∨
    Version.references ≤ tx.version ∧ tx.references.length ≤ Limit.references
  extra : tx.extra.length ≤ tx.extraLimit
  shapes : ∀ i ∈ tx.inputs, i.hasOneShape = true
  distinct : (Input.outpoints tx.inputs).Nodup
  outputs : ∀ out ∈ tx.outputs, out.WellFormed E

variable {E : Curve} {tx : Transaction}

theorem countCheck_eq_ok_iff {ε : Type} {n limit : Nat} {e e' : ε} :
    (if n = 0 then .error e else if limit < n then .error e' else .ok () : Except ε Unit) = .ok () ↔
      n ≠ 0 ∧ n ≤ limit := by
  by_cases hzero : n = 0
  · simp [hzero]
  · by_cases hlt : limit < n
    · simp [hzero, hlt]
    · simp [hzero, hlt, Nat.not_lt.mp hlt]

theorem checkInputCount_eq_ok_iff {limit : Nat} :
    tx.checkInputCount limit = .ok () ↔ tx.inputs ≠ [] ∧ tx.inputs.length ≤ limit :=
  countCheck_eq_ok_iff.trans (and_congr_left' List.length_eq_zero_iff.not)

theorem checkOutputCount_eq_ok_iff {limit : Nat} :
    tx.checkOutputCount limit = .ok () ↔ tx.outputs ≠ [] ∧ tx.outputs.length ≤ limit :=
  countCheck_eq_ok_iff.trans (and_congr_left' List.length_eq_zero_iff.not)

theorem checkReferences_eq_ok_iff :
    tx.checkReferences = .ok () ↔ tx.references = [] ∨
      Version.references ≤ tx.version ∧ tx.references.length ≤ Limit.references := by
  rw [checkReferences, ← List.length_eq_zero_iff]
  split
  · next hzero => simp [hzero]
  · split
    · next hne hlt => simp [hne, UInt8.not_le.mpr hlt]
    · next hne hle =>
      split
      · next hlt => simp [hne, Nat.not_le.mpr hlt]
      · next hcount => simp [UInt8.not_lt.mp hle, Nat.not_lt.mp hcount]

theorem checkExtra_eq_ok_iff :
    tx.checkExtra = .ok () ↔ tx.extra.length ≤ tx.extraLimit := by
  rw [checkExtra]
  split
  · next hlt => simp [Nat.not_le.mpr hlt]
  · next hle => simp [Nat.not_lt.mp hle]

theorem validate_eq_ok_iff : tx.validate E = .ok () ↔ tx.WellFormed E := by
  simp only [validate, guard_bind_eq_ok_iff, UInt8.not_lt, check_bind_eq_ok_iff,
    checkInputCount_eq_ok_iff, checkOutputCount_eq_ok_iff, checkReferences_eq_ok_iff,
    checkExtra_eq_ok_iff, checkInputs, Input.checkFrom_eq_ok_iff, Output.checkFrom_eq_ok_iff]
  constructor
  · rintro ⟨hversion, hin, hout, hrefs, hextra, ⟨hshapes, hdistinct, _⟩, houtputs⟩
    exact ⟨hversion, hin.1, hin.2, hout.1, hout.2, hrefs, hextra, hshapes, hdistinct, houtputs⟩
  · intro h
    exact ⟨h.version, ⟨h.inputs_ne, h.inputs_le⟩, ⟨h.outputs_ne, h.outputs_le⟩, h.references,
      h.extra, ⟨h.shapes, h.distinct, fun _ _ => List.not_mem_nil⟩, h.outputs⟩

theorem WellFormed.references_eq_nil (h : tx.WellFormed E)
    (hv : tx.version < Version.references) : tx.references = [] :=
  h.references.resolve_right fun hrefs => UInt8.not_le.mpr hv hrefs.1

theorem extraLimit_le_storageCapacity (tx : Transaction) :
    tx.extraLimit ≤ Limit.storageCapacity := by
  simp only [extraLimit]
  split
  · decide
  · split
    · exact Nat.min_le_right _ _
    · decide

/-- An output that pays for storage pays for one step at least. -/
theorem extra_le_extraLimit (tx : Transaction) : Limit.extra ≤ tx.extraLimit := by
  simp only [extraLimit]
  split
  · exact Nat.le_refl _
  · next out _ _ =>
    split
    · next h =>
      obtain ⟨_, _, _, _, _, hprice⟩ := h
      have hstep : 1 ≤ out.amount.units / (Amount.ofUInt64 Limit.stepPrice).units :=
        Nat.div_pos hprice (by decide)
      have hcount : 1 ≤ out.amount.count (Amount.ofUInt64 Limit.stepPrice) :=
        Nat.le_min.mpr ⟨hstep, by decide⟩
      have hlimit : Limit.extra ≤ 1 * Limit.storageStep := by decide
      exact Nat.le_min.mpr
        ⟨hlimit.trans (Nat.mul_le_mul_right Limit.storageStep hcount), by decide⟩
    · exact Nat.le_refl _

theorem WellFormed.extra_le (h : tx.WellFormed E) : tx.extra.length ≤ Limit.storageCapacity :=
  h.extra.trans tx.extraLimit_le_storageCapacity

end Transaction

end KernelWallet
