import KernelWallet.Proofs.Payment.Spend

/-! Which output a signature is made for. A request that signs all inputs compares the outputs it is
given with the inputs of the transaction. A request that signs one input does not, and takes any
output that holds the key. -/

namespace KernelWallet

variable {E : Curve} {s t : Session}

namespace Session

/-- The output is the one that the input of the transaction spends. -/
def Spends (s : Session) (input : Nat) (o : Spendable) : Prop :=
  ∃ i, s.tx.inputs[input]? = some i ∧ o.isOutpoint i.hash i.index = true

theorem spends_of_checkSpends {outputs : List Spendable} (h : s.checkSpends outputs = .ok ())
    {n : Nat} {o : Spendable} (ho : outputs[n]? = some o) : s.Spends n o := by
  have hpairs := checkSpends_eq_ok_iff.mp h
  exact exists_getElem?_of_forall₂ hpairs.flip ho

end Session

namespace SigningRequest

/-- Whether the outputs of the request are compared with the inputs that they are signed for. -/
def comparesOutpoints : SigningRequest → Bool
  | withViews .. => true
  | single .. => false
  | withAccount .. => true

theorem spends_of_check {r : SigningRequest} (hr : r.comparesOutpoints = true)
    (h : r.check s = .ok ()) : ∀ j ∈ r.jobs E, s.Spends j.input j.output := by
  intro j hj
  cases r with
  | withViews privateSpend outputs views =>
    rw [check, guard_bind_eq_ok_iff] at h
    obtain ⟨⟨⟨output, view⟩, i⟩, hmem, rfl⟩ := List.mem_map.mp hj
    have hzip := List.mk_mem_zipIdx_iff_getElem?.mp hmem
    have hget := (List.getElem?_zip_eq_some.mp hzip).1
    exact Session.spends_of_checkSpends h.2 hget
  | single => exact absurd hr (by simp [comparesOutpoints])
  | withAccount a outputs =>
    obtain ⟨⟨output, i⟩, hmem, rfl⟩ := List.mem_map.mp hj
    have hget := List.mk_mem_zipIdx_iff_getElem?.mp hmem
    exact Session.spends_of_checkSpends h hget

/-- All that signing one input takes from the output is its keys. -/
theorem run_single_congr (privateSpend : Key) (input : Nat) {output other : Spendable}
    (hkeys : other.keys = output.keys) (view : Key) (slot : Option Nat) :
    (single privateSpend input other view slot).run E =
      (single privateSpend input output view slot).run E := by
  simp only [run, Session.signInput, InputSignature.make, hkeys]

/-- When signing succeeds, the inputs that get signatures are those of the request. If the request
is for all inputs, each of them spends the output that its signature is made for. If it is for one
input, the outcome is the same with every output that has the same keys, whatever it is. -/
theorem spends_of_run {r : SigningRequest} (h : (r.run E).run s = .ok () t) :
    (r.comparesOutpoints = true → ∀ j ∈ r.jobs E, s.Spends j.input j.output) ∧
    (∀ input k, t.signature? input k ≠ s.signature? input k → ∃ j ∈ r.jobs E, j.input = input) ∧
    ∀ privateSpend input output view slot, r = single privateSpend input output view slot →
      ∀ other : Spendable, other.keys = output.keys →
        ((single privateSpend input other view slot).run E).run s = .ok () t := by
  obtain ⟨xs, hxs, hlt, rfl⟩ := run_eq_ok_iff.mp h
  obtain ⟨hcheck, hash, _, hmade⟩ := signatures_eq_ok_iff.mp hxs
  refine ⟨fun hr => spends_of_check hr hcheck,
    fun input k hchanged => exists_job_of_signature?_ne hmade hlt hchanged, ?_⟩
  rintro privateSpend input output view slot rfl other hkeys
  rw [run_single_congr privateSpend input hkeys view slot]
  exact h

theorem slotOf_singleton (key : Key) : InputSignature.slotOf [key] key none = some 0 := by
  simp [InputSignature.slotOf]

theorem exists_run_splittingOf (E : Curve) (a b : Scalar) (ghost : Key) (hash : Hash) :
    ∃ t, ((withViews (Key.ofScalar b) (Payment.splittingOf E (a + b) 1).inputs
        [Key.ofScalar a, Key.ofScalar a]).run E).run
      ⟨Payment.splitTransaction ghost, .built, some hash⟩ = .ok () t := by
  let s : Session := ⟨Payment.splitTransaction ghost, .built, some hash⟩
  let key := Key.ofBaseMultiple E (a + b)
  obtain ⟨first, second, hinputs, hfirst, hsecond⟩ : ∃ first second,
      (Payment.splittingOf E (a + b) 1).inputs = [first, second] ∧ first.keys = [key] ∧
        second.keys = [key] := ⟨_, _, rfl, rfl, rfl⟩
  have hcheck : s.checkSpends [first, second] = .ok () :=
    Session.checkSpends_of_map_input (hinputs ▸ rfl)
  let oneTime := Session.oneTimeKey (Key.ofScalar a) (Key.ofScalar b)
  have hmake : ∀ (input : Nat) (output : Spendable), output.keys = [key] →
      ∃ sig, SigningJob.make E hash ⟨input, output, oneTime, none⟩ = .ok ⟨input, 0, sig⟩ := by
    intro input output hkeys
    have hkey : oneTime = .ok (Key.ofScalar (a + b)) := Session.oneTimeKey_ofScalar a b
    exact SigningJob.exists_make_ofScalar hash hkey (hkeys ▸ slotOf_singleton key)
  obtain ⟨sig, hsig⟩ := hmake 0 first hfirst
  obtain ⟨sig', hsig'⟩ := hmake 1 second hsecond
  rw [hinputs]
  refine ⟨_, run_eq_ok_iff.mpr ⟨[⟨0, 0, sig⟩, ⟨1, 0, sig'⟩], signatures_eq_ok_iff.mpr ?_, ?_, rfl⟩⟩
  · exact ⟨hcheck, hash, rfl, .cons hsig (.cons hsig' .nil)⟩
  · rw [List.forall_mem_cons, List.forall_mem_singleton]
    exact ⟨Nat.zero_lt_two, Nat.one_lt_two⟩

theorem spends_of_run_splittingOf :
    ∃ p fetched e s t first second, p = Payment.splittingOf Curve.ed25519 (3 + 4) 1 ∧
      p.build Curve.ed25519 fetched e = .ok s ∧ p.inputs = [first, second] ∧
      ((withViews (Key.ofScalar 4) p.inputs [Key.ofScalar 3, Key.ofScalar 3]).run
        Curve.ed25519).run s = .ok () t ∧
      s.Spends 0 first ∧ s.Spends 1 second := by
  obtain ⟨_, _, ghost, hash, hbuild⟩ := Payment.exists_build_splittingOf (3 + 4) 1
  obtain ⟨t, hrun⟩ := exists_run_splittingOf Curve.ed25519 3 4 ghost hash
  have hspends := (spends_of_run hrun).1 rfl
  exact ⟨_, _, _, _, t, _, _, rfl, hbuild, rfl, hrun, hspends _ (.head _),
    hspends _ (.tail _ (.head _))⟩

/-- Even of a payment that is built as it should be, the second input can be signed for the output
that the first one spends. -/
theorem not_forall_spends :
    ¬ ∀ (p : Payment) (fetched : List GhostKeys) (e : Entropy) (r : SigningRequest)
      (s t : Session), p.build Curve.ed25519 fetched e = .ok s →
      (∀ j ∈ r.jobs Curve.ed25519, j.output ∈ p.inputs) →
      (r.run Curve.ed25519).run s = .ok () t →
      ∀ j ∈ r.jobs Curve.ed25519, s.Spends j.input j.output := by
  intro hall
  obtain ⟨_, _, ghost, hash, hbuild⟩ := Payment.exists_build_splittingOf (3 + 4) 1
  let s : Session := ⟨Payment.splitTransaction ghost, .built, some hash⟩
  obtain ⟨first, hfirst, hkeys, hindex⟩ : ∃ first,
      first ∈ (Payment.splittingOf Curve.ed25519 (3 + 4) 1).inputs ∧
        first.keys = [Key.ofBaseMultiple Curve.ed25519 (3 + 4)] ∧ first.index = 0 :=
    ⟨_, .head _, rfl, rfl⟩
  let r := single (Key.ofScalar 4) 1 first (Key.ofScalar 3) none
  have hown : ∀ j ∈ r.jobs Curve.ed25519,
      j.output ∈ (Payment.splittingOf Curve.ed25519 (3 + 4) 1).inputs :=
    List.forall_mem_singleton.mpr hfirst
  have hinput : 1 < s.tx.inputs.length := Nat.one_lt_two
  obtain ⟨sig, hrun⟩ := run_single 3 4 rfl (hkeys ▸ slotOf_singleton _) hinput
  obtain ⟨i, hi, houtpoint⟩ := hall _ _ _ r s _ hbuild hown hrun _ (.head _)
  obtain rfl := Option.some.inj hi
  rw [Spendable.isOutpoint, hindex] at houtpoint
  exact absurd houtpoint (by simp [Input.ofOutput])

end SigningRequest

end KernelWallet
