import KernelWallet.Curve.Ed25519
import KernelWallet.Proofs.Payload
import KernelWallet.Proofs.Validation.Acceptance
import KernelWallet.Proofs.Wire.Fits

/-! The shape of accepted inputs. The checks ask that an input which spends no output has no hash,
but they do not look at its index. It can be any, and each gives the transaction another payload. -/

namespace KernelWallet

namespace Input

/-- The input is one of the four shapes, with nothing in the fields of the other three. -/
inductive HasShape : Input → Prop
  | output (hash : Hash) (index : UInt8) : HasShape (ofOutput hash index)
  | genesis {g : Bytes} (h : g ≠ []) : HasShape (ofGenesis g)
  | deposit (d : Deposit) : HasShape (ofDeposit d)
  | mint (m : Mint) : HasShape (ofMint m)

/-- Both inputs mean the same genesis data, deposit or mint, or else spend the same output. -/
structure SameSource (i j : Input) : Prop where
  genesis : j.genesis = i.genesis
  deposit : j.deposit = i.deposit
  mint : j.mint = i.mint
  outpoint : i.SpendsOutput → j.hash = i.hash ∧ j.index = i.index

variable {i j : Input} {is js : List Input}

theorem SpendsOutput.eq_ofOutput (h : i.SpendsOutput) : i = ofOutput i.hash i.index := by
  obtain ⟨hash, index, genesis, deposit, mint⟩ := i
  obtain ⟨rfl, rfl, rfl⟩ := h
  rfl

theorem HasShape.isExclusive (h : i.HasShape) : i.IsExclusive := by
  cases h with
  | output hash index => exact ⟨nofun, nofun, fun h => absurd ⟨rfl, rfl, rfl⟩ h⟩
  | genesis hne => exact ⟨fun _ => ⟨rfl, rfl⟩, nofun, fun _ => rfl⟩
  | deposit d => exact ⟨nofun, fun _ => rfl, fun _ => rfl⟩
  | mint m => exact ⟨nofun, nofun, fun _ => rfl⟩

theorem HasShape.spendsOutput_or (h : i.HasShape) : i.SpendsOutput ∨ i.index = 0 := by
  cases h with
  | output hash index => exact .inl ⟨rfl, rfl, rfl⟩
  | genesis | deposit | mint => exact .inr rfl

theorem IsExclusive.hasShape (h : i.IsExclusive) (hindex : i.SpendsOutput ∨ i.index = 0) :
    i.HasShape := by
  by_cases hspends : i.SpendsOutput
  · rw [hspends.eq_ofOutput]
    exact .output i.hash i.index
  · have hhash := h.hash hspends
    have hzero := hindex.resolve_left hspends
    obtain ⟨hash, index, genesis, deposit, mint⟩ := i
    obtain rfl : hash = Hash.zero := hhash
    obtain rfl : index = 0 := hzero
    by_cases hgenesis : genesis = []
    · subst hgenesis
      cases deposit with
      | some d =>
        obtain rfl : mint = none := h.deposit nofun
        exact .deposit d
      | none =>
        cases mint with
        | some m => exact .mint m
        | none => exact absurd ⟨rfl, rfl, rfl⟩ hspends
    · obtain ⟨rfl, rfl⟩ : deposit = none ∧ mint = none := h.genesis hgenesis
      exact .genesis hgenesis

theorem hasShape_iff : i.HasShape ↔ i.IsExclusive ∧ (i.SpendsOutput ∨ i.index = 0) :=
  ⟨fun h => ⟨h.isExclusive, h.spendsOutput_or⟩, fun h => h.1.hasShape h.2⟩

theorem IsExclusive.withIndex (h : i.IsExclusive) (k : UInt8) : { i with index := k }.IsExclusive :=
  ⟨h.genesis, h.deposit, h.hash⟩

namespace SameSource

theorem spendsOutput_iff (h : SameSource i j) : j.SpendsOutput ↔ i.SpendsOutput := by
  rw [SpendsOutput, SpendsOutput, h.genesis, h.deposit, h.mint]

theorem isExclusive_iff (h : SameSource i j) (hi : i.IsExclusive) :
    j.IsExclusive ↔ j.SpendsOutput ∨ j.hash = Hash.zero := by
  constructor
  · intro hj
    by_cases hspends : j.SpendsOutput
    · exact .inl hspends
    · exact .inr (hj.hash hspends)
  · intro hj
    refine ⟨?_, ?_, hj.resolve_left⟩
    · rw [h.genesis, h.deposit, h.mint]
      exact hi.genesis
    · rw [h.deposit, h.mint]
      exact hi.deposit

theorem outpoints_eq (h : List.Forall₂ SameSource is js) : outpoints js = outpoints is := by
  induction h with
  | nil => rfl
  | @cons i j is js hij _ ih =>
    by_cases hspends : i.SpendsOutput
    · have hi : i.extraShapes = 0 := extraShapes_eq_zero_iff.mpr hspends
      have hj : j.extraShapes = 0 := extraShapes_eq_zero_iff.mpr (hij.spendsOutput_iff.mpr hspends)
      obtain ⟨hhash, hindex⟩ := hij.outpoint hspends
      rw [outpoints_cons_of_eq hi, outpoints_cons_of_eq hj, hhash, hindex, ih]
    · have hi : i.extraShapes ≠ 0 := mt extraShapes_eq_zero_iff.mp hspends
      have hj : j.extraShapes ≠ 0 :=
        mt extraShapes_eq_zero_iff.mp (mt hij.spendsOutput_iff.mp hspends)
      rw [outpoints_cons_of_ne hi, outpoints_cons_of_ne hj, ih]

theorem fitsMsgpack (h : SameSource i j) (hi : i.FitsMsgpack) : j.FitsMsgpack where
  genesis := h.genesis ▸ hi.genesis
  deposit := h.deposit ▸ hi.deposit
  mint := h.mint ▸ hi.mint

theorem fitsWire (h : SameSource i j) (hi : i.FitsWire) : j.FitsWire where
  genesis := h.genesis ▸ hi.genesis
  deposit := h.deposit ▸ hi.deposit
  mint := h.mint ▸ hi.mint

end SameSource

end Input

namespace Transaction

variable {E : Curve} {tx : Transaction} {inputs : List Input} {b : Bytes}

theorem WellFormed.withInputs_iff (h : tx.WellFormed E)
    (hs : List.Forall₂ Input.SameSource tx.inputs inputs) :
    { tx with inputs }.WellFormed E ↔ ∀ i ∈ inputs, i.SpendsOutput ∨ i.hash = Hash.zero := by
  have hshape : ∀ j ∈ inputs, j.hasOneShape = true ↔ j.SpendsOutput ∨ j.hash = Hash.zero :=
    forall_mem_of_forall₂ hs fun i hi j hij =>
      Input.hasOneShape_iff.trans (hij.isExclusive_iff (Input.hasOneShape_iff.mp (h.shapes i hi)))
  constructor
  · exact fun h' j hj => (hshape j hj).mp (h'.shapes j hj)
  · intro hhash
    have hlength : tx.inputs.length = inputs.length := hs.length_eq
    exact { h with
      inputs_ne := List.length_pos_iff.mp (hlength ▸ List.length_pos_iff.mpr h.inputs_ne)
      inputs_le := hlength ▸ h.inputs_le
      shapes := fun j hj => (hshape j hj).mpr (hhash j hj)
      distinct := Input.SameSource.outpoints_eq hs ▸ h.distinct }

theorem FitsMsgpack.withInputs (h : tx.FitsMsgpack)
    (hs : List.Forall₂ Input.SameSource tx.inputs inputs) : { tx with inputs }.FitsMsgpack :=
  { h with
    inputCount := hs.length_eq ▸ h.inputCount
    inputs := forall_mem_of_forall₂ hs fun i hi _ hij => hij.fitsMsgpack (h.inputs i hi) }

theorem FitsWire.withInputs (h : tx.FitsWire)
    (hs : List.Forall₂ Input.SameSource tx.inputs inputs) : { tx with inputs }.FitsWire :=
  { h with
    inputCount := hs.length_eq ▸ h.inputCount
    inputs := forall_mem_of_forall₂ hs fun i hi _ hij => hij.fitsWire (h.inputs i hi) }

theorem exists_encodePayload_withInputs (hs : List.Forall₂ Input.SameSource tx.inputs inputs)
    (h : tx.encodePayload = .ok b) : ∃ b', { tx with inputs }.encodePayload = .ok b' := by
  by_cases hv : tx.version < Version.binary
  · exact ⟨_, if_pos hv⟩
  · rw [encodePayload, if_neg hv] at h ⊢
    obtain ⟨hbinary, body, hbody, _⟩ := Wire.write_eq_ok_iff.mp h
    have hfits : tx.payload.FitsWire := exists_writeBody_iff_fitsWire.mp ⟨body, hbody⟩
    obtain ⟨body', hbody'⟩ := exists_writeBody_iff_fitsWire.mpr (hfits.withInputs hs)
    exact ⟨_, Wire.write_eq_ok_iff.mpr ⟨hbinary, body', hbody', rfl⟩⟩

theorem encodePayload_withInputs_ne (hs : List.Forall₂ Input.SameSource tx.inputs inputs)
    (hfit : tx.version < Version.binary → tx.FitsMsgpack) (hne : inputs ≠ tx.inputs)
    (h : tx.encodePayload = .ok b) : { tx with inputs }.encodePayload ≠ .ok b := by
  intro h'
  -- The payload determines the inputs, in the msgpack form as long as their lengths have room.
  have hfits : tx.version < Version.binary → { tx with inputs }.FitsMsgpack ∧ tx.FitsMsgpack :=
    fun hv => ⟨(hfit hv).withInputs hs, hfit hv⟩
  have heq := onWire_payload_of_encodePayload (t := { tx with inputs }) hfits h' h
  exact hne (congrArg Transaction.inputs heq)

/-- An input has its shape as soon as its index is cleared, which the checks ask of no input. With
other indices for those that spend nothing, the same inputs are accepted in another payload. -/
theorem shape_of_validate (h : tx.validate E = .ok ()) :
    (∀ i ∈ tx.inputs, { i with index := 0 }.HasShape ∧
      (i.HasShape ↔ i.SpendsOutput ∨ i.index = 0)) ∧
    ∀ inputs, List.Forall₂ Input.SameSource tx.inputs inputs →
      ({ tx with inputs }.validate E = .ok () ↔
        ∀ i ∈ inputs, i.SpendsOutput ∨ i.hash = Hash.zero) ∧
      (inputs ≠ tx.inputs → (tx.version < Version.binary → tx.FitsMsgpack) →
        ∀ b, tx.encodePayload = .ok b →
          ∃ b', { tx with inputs }.encodePayload = .ok b' ∧ b' ≠ b) := by
  have hwell := validate_eq_ok_iff.mp h
  constructor
  · intro i hi
    have hone : i.IsExclusive := Input.hasOneShape_iff.mp (hwell.shapes i hi)
    exact ⟨(hone.withIndex 0).hasShape (.inr rfl), Input.hasShape_iff.trans (and_iff_right hone)⟩
  · intro inputs hs
    refine ⟨validate_eq_ok_iff.trans (hwell.withInputs_iff hs), fun hne hfit b hb => ?_⟩
    obtain ⟨b', hb'⟩ := exists_encodePayload_withInputs hs hb
    refine ⟨b', hb', ?_⟩
    rintro rfl
    exact encodePayload_withInputs_ne hs hfit hne hb hb'

/-- The deposit of `deposited` with an index, which means nothing there. -/
def depositedAt (index : UInt8) : Transaction :=
  { deposited with inputs := deposited.inputs.map fun i => { i with index } }

theorem shape_of_validate_deposited :
    deposited.validate Curve.ed25519 = .ok () ∧
      (depositedAt 1).validate Curve.ed25519 = .ok () ∧ deposited.FitsMsgpack ∧
      ∃ b b', deposited.encodePayload = .ok b ∧ (depositedAt 1).encodePayload = .ok b' ∧
        b' ≠ b := by
  have hvalid : deposited.validate Curve.ed25519 = .ok () := rfl
  have hs : List.Forall₂ Input.SameSource deposited.inputs (depositedAt 1).inputs :=
    .cons ⟨rfl, rfl, rfl, fun h => nomatch h.2.1⟩ .nil
  have hzero : ∀ i ∈ (depositedAt 1).inputs, i.SpendsOutput ∨ i.hash = Hash.zero :=
    List.forall_mem_singleton.mpr (.inr rfl)
  obtain ⟨hvalid', hpayload⟩ := (shape_of_validate hvalid).2 _ hs
  obtain ⟨b', hb', hne⟩ := hpayload (by decide) (fun _ => fitsMsgpack_deposited) _ rfl
  exact ⟨hvalid, hvalid'.mpr hzero, fitsMsgpack_deposited, _, b', rfl, hb', hne⟩

theorem not_forall_hasShape :
    ¬ ∀ tx : Transaction, tx.validate Curve.ed25519 = .ok () → ∀ i ∈ tx.inputs, i.HasShape := by
  intro h
  have hshape := h (depositedAt 1) rfl _ (List.mem_singleton_self _)
  rcases hshape.spendsOutput_or with hspends | hindex
  · exact nomatch hspends.2.1
  · exact absurd hindex (by decide)

end Transaction

end KernelWallet
