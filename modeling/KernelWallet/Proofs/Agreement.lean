import KernelWallet.Proofs.Session

/-! How the state of a session goes together with its cached hash. A draft that is moved on without
being sealed has no hash, and no operation gives it one any more. In every other run a session is a
draft exactly as long as no hash is cached. -/

namespace KernelWallet.Session

/-- A session that left the drafts without a hash. -/
def Unnamed (s : Session) : Prop :=
  s.state ≠ .draft ∧ s.hash = none

/-- A session that is a draft exactly as long as no hash is cached. -/
def Agrees (s : Session) : Prop :=
  s.state = .draft ↔ s.hash = none

/-- Some operation of the run moves a draft on to built without sealing it. -/
def MovesDraft (E : Curve) (ops : List Op) (s : Session) : Prop :=
  ∃ before later, ops = before ++ Op.advance .built :: later ∧
    (afterAll E before s).state = .draft

theorem ne_draft_of_canAdvanceTo {current next : TxState}
    (h : current.canAdvanceTo next = true) : next ≠ .draft := by
  revert h
  cases current <;> cases next <;> decide

theorem eq_draft_of_canAdvanceTo_built {current : TxState}
    (h : current.canAdvanceTo .built = true) : current = .draft := by
  revert h
  cases current <;> decide

theorem canAdvanceTo_of_draft {next : TxState} (h : next ≠ .built) :
    TxState.draft.canAdvanceTo next = false := by
  revert h
  cases next <;> decide

/-! ## Steps -/

namespace Step

variable {E : Curve} {s s' : Session}

theorem state_ne_draft (h : Step E s s') (hs : s.state ≠ .draft) : s'.state ≠ .draft := by
  rcases h.state with hsame | hmove
  · rw [hsame]
    exact hs
  · exact ne_draft_of_canAdvanceTo hmove

theorem unnamed (h : Step E s s') (hs : s.Unnamed) : s'.Unnamed := by
  obtain ⟨hstate, hnone⟩ := hs
  refine ⟨h.state_ne_draft hstate, ?_⟩
  cases h with
  | same | edited | advanced => exact hnone
  | sealed _ _ _ hdraft => exact absurd (eq_draft_of_canAdvanceTo_built hdraft) hstate
  | signed _ hsome => simp [hnone] at hsome

theorem agrees_of_hash (h : Step E s s') (hs : s.Agrees) (hsome : s'.hash ≠ none) : s'.Agrees := by
  have hstate : s'.state ≠ .draft := by
    cases h with
    | same | edited | signed => exact mt hs.mp hsome
    | sealed => simp
    | advanced hmove => exact ne_draft_of_canAdvanceTo hmove
  exact iff_of_false hstate hsome

end Step

/-! ## Operations -/

section

variable {E : Curve} {s : Session}

theorem after_advance (next : TxState) (s : Session) :
    (Op.advance next).after E s =
      if s.state.canAdvanceTo next then { s with state := next } else s := by
  rw [Op.after, Op.exec, EStateM.run_adaptExcept, run_advance]
  by_cases h : s.state.canAdvanceTo next = true <;> simp [h]

/-- Only sealing and advancing write the state. -/
theorem state_after {op : Op} (hseal : op ≠ .sealBody) (hadvance : ∀ next, op ≠ .advance next) :
    (op.after E s).state = s.state := by
  cases op with
  | edit f =>
    rw [Op.after, Op.exec, EStateM.run_adaptExcept, run_edit]
    by_cases h : s.hash.isSome = true <;> simp [h]
  | sealBody => exact absurd rfl hseal
  | advance next => exact absurd rfl (hadvance next)
  | setSignature input signer sig =>
    rw [Op.after, Op.exec, EStateM.run_adaptExcept, run_setSignature]
    by_cases h : s.hash.isNone = true
    · simp [h]
    · by_cases hlen : s.tx.inputs.length ≤ input <;> simp [h, hlen, withSignatures]
  | setAggregated agg =>
    rw [Op.after, Op.exec, EStateM.run_adaptExcept, run_setAggregated]
    by_cases h : s.hash.isNone = true <;> simp [h, withSignatures]

/-- Sealing caches a hash or changes nothing. -/
theorem after_sealBody (E : Curve) (s : Session) :
    Op.sealBody.after E s = s ∨ (Op.sealBody.after E s).hash ≠ none := by
  rw [Op.after, Op.exec, EStateM.run_bind, run_sealBody]
  cases hs : s.hash with
  | some hash => exact .inl rfl
  | none =>
    cases s.tx.validate E with
    | error e => exact .inl rfl
    | ok u =>
      cases s.tx.payloadHash with
      | error e => exact .inl rfl
      | ok hash =>
        by_cases hstate : s.state.canAdvanceTo .built = true
        · simp only [hstate, if_true]
          exact .inr (by simp)
        · simp only [hstate]
          exact .inl rfl

/-- A draft that gets no hash stays one, unless it is moved on. -/
theorem state_after_of_hash_none {op : Op} (hop : op ≠ .advance .built) (hs : s.state = .draft)
    (hnone : (op.after E s).hash = none) : (op.after E s).state = .draft := by
  by_cases hseal : op = .sealBody
  · subst hseal
    rcases after_sealBody E s with hsame | hsome
    · rw [hsame]
      exact hs
    · exact absurd hnone hsome
  · by_cases hadvance : ∃ next, op = .advance next
    · obtain ⟨next, rfl⟩ := hadvance
      have hnext : next ≠ .built := fun h => hop (h ▸ rfl)
      rw [after_advance, hs, canAdvanceTo_of_draft hnext, if_neg (by simp)]
      exact hs
    · rw [state_after hseal (not_exists.mp hadvance)]
      exact hs

theorem unnamed_after_advance (hs : s.state = .draft) (hagrees : s.Agrees) :
    ((Op.advance .built).after E s).Unnamed := by
  rw [after_advance, hs]
  exact ⟨by simp [TxState.canAdvanceTo], hagrees.mp hs⟩

theorem agrees_after {op : Op} (hagrees : s.Agrees)
    (hop : ¬ (op = .advance .built ∧ s.state = .draft)) : (op.after E s).Agrees := by
  by_cases hnone : (op.after E s).hash = none
  · refine iff_of_true ?_ hnone
    have hs : s.state = .draft := by
      by_contra hstate
      obtain ⟨hash, hsome⟩ := Option.ne_none_iff_exists'.mp (mt hagrees.mpr hstate)
      have hkept := ((step_after E op s).frozen hsome).1
      exact absurd (hkept.symm.trans hnone) (by simp)
    exact state_after_of_hash_none (fun h => hop ⟨h, hs⟩) hs hnone
  · exact (step_after E op s).agrees_of_hash hagrees hnone

/-! ## Runs -/

theorem unnamed_afterAll (hs : s.Unnamed) (ops : List Op) : (afterAll E ops s).Unnamed := by
  induction ops generalizing s with
  | nil => exact hs
  | cons op ops ih => exact ih ((step_after E op s).unnamed hs)

theorem movesDraft_cons {op : Op} {ops : List Op} :
    MovesDraft E (op :: ops) s ↔
      (op = .advance .built ∧ s.state = .draft) ∨ MovesDraft E ops (op.after E s) := by
  constructor
  · rintro ⟨_ | ⟨op', before⟩, later, hops, hstate⟩
    · exact .inl ⟨(List.cons.inj hops).1, hstate⟩
    · obtain ⟨rfl, rfl⟩ := List.cons.inj hops
      exact .inr ⟨before, later, rfl, hstate⟩
  · rintro (⟨rfl, hstate⟩ | ⟨before, later, rfl, hstate⟩)
    · exact ⟨[], ops, rfl, hstate⟩
    · exact ⟨op :: before, later, rfl, hstate⟩

theorem agrees_or_unnamed (hagrees : s.Agrees) (ops : List Op) :
    (¬ MovesDraft E ops s ∧ (afterAll E ops s).Agrees) ∨
      (MovesDraft E ops s ∧ (afterAll E ops s).Unnamed) := by
  induction ops generalizing s with
  | nil =>
    refine .inl ⟨?_, hagrees⟩
    rintro ⟨before, later, hops, _⟩
    exact absurd hops (by simp)
  | cons op ops ih =>
    rw [movesDraft_cons]
    by_cases hop : op = .advance .built ∧ s.state = .draft
    · obtain ⟨rfl, hstate⟩ := hop
      exact .inr ⟨.inl ⟨rfl, hstate⟩, unnamed_afterAll (unnamed_after_advance hstate hagrees) ops⟩
    · simp only [hop, false_or]
      exact ih (agrees_after hagrees hop)

theorem agrees_draft (tx : Transaction) : (draft tx).Agrees :=
  iff_of_true rfl rfl

theorem agrees_of_decode {b : Bytes} (h : decode b = .ok s) : s.Agrees := by
  obtain ⟨tx, _, h⟩ := bind_eq_ok_iff.mp h
  obtain ⟨hash, _, h⟩ := bind_eq_ok_iff.mp h
  obtain rfl := Except.ok.inj h
  exact iff_of_false (by simp) (by simp)

/-- A session that left the drafts without a hash cannot be sealed. -/
theorem sealBody_of_unnamed (hs : s.Unnamed) : ∃ e, (sealBody E).run s = .error e s := by
  obtain ⟨hstate, hnone⟩ := hs
  have hmove : ¬ s.state.canAdvanceTo .built = true := mt eq_draft_of_canAdvanceTo_built hstate
  rw [run_sealBody, hnone]
  cases s.tx.validate E with
  | error e => exact ⟨_, rfl⟩
  | ok u =>
    cases s.tx.payloadHash with
    | error e => exact ⟨_, rfl⟩
    | ok hash =>
      simp only [hmove]
      exact ⟨_, rfl⟩

end

/-- In every run of operations from a draft or from bytes that were read that moves no draft on by
hand, a session is a draft exactly as long as no hash is cached, and past the drafts its body is
closed to edits. A run that does ends past the drafts without a hash, its body still open, and can
not be sealed. -/
theorem agrees_of_run (E : Curve) {s : Session}
    (hs : (∃ tx, s = draft tx) ∨ ∃ b, decode b = .ok s) (ops : List Op) :
    (¬ MovesDraft E ops s →
      ((afterAll E ops s).state = .draft ↔ (afterAll E ops s).hash = none) ∧
      ((afterAll E ops s).state ≠ .draft → ∀ f,
        (edit f).run (afterAll E ops s) = .error .sealed (afterAll E ops s))) ∧
    (MovesDraft E ops s →
      (afterAll E ops s).state ≠ .draft ∧ (afterAll E ops s).hash = none ∧
      (∀ f, (edit f).run (afterAll E ops s) =
        .ok () { afterAll E ops s with tx := f (afterAll E ops s).tx }) ∧
      ∃ e, (sealBody E).run (afterAll E ops s) = .error e (afterAll E ops s)) := by
  have hagrees : s.Agrees := by
    rcases hs with ⟨tx, rfl⟩ | ⟨b, hb⟩
    · exact agrees_draft tx
    · exact agrees_of_decode hb
  rcases agrees_or_unnamed (E := E) hagrees ops with ⟨hno, hend⟩ | ⟨hyes, hend⟩
  · refine ⟨fun _ => ⟨hend, fun hstate f => ?_⟩, fun h => absurd h hno⟩
    have hsome : (afterAll E ops s).hash.isSome = true :=
      Option.isSome_iff_ne_none.mpr (mt hend.mpr hstate)
    rw [run_edit, if_pos hsome]
  · have hseal := sealBody_of_unnamed (E := E) hend
    refine ⟨fun h => absurd hyes h, fun _ => ⟨hend.1, hend.2, fun f => ?_, hseal⟩⟩
    rw [run_edit, if_neg (by simp [hend.2])]

/-- A draft that is moved on, handed in and accepted. -/
def acceptedDraft : List Op :=
  [.advance .built, .advance .submitted, .advance .mined]

theorem agrees_of_run_acceptedDraft :
    MovesDraft Curve.ed25519 acceptedDraft (draft Transaction.signedWithdrawal) ∧
      (afterAll Curve.ed25519 acceptedDraft (draft Transaction.signedWithdrawal)).state ≠ .draft ∧
      (afterAll Curve.ed25519 acceptedDraft (draft Transaction.signedWithdrawal)).hash = none ∧
      ∃ e, (sealBody Curve.ed25519).run
          (afterAll Curve.ed25519 acceptedDraft (draft Transaction.signedWithdrawal)) =
        .error e (afterAll Curve.ed25519 acceptedDraft (draft Transaction.signedWithdrawal)) := by
  have hmoves : MovesDraft Curve.ed25519 acceptedDraft (draft Transaction.signedWithdrawal) :=
    ⟨[], _, rfl, rfl⟩
  obtain ⟨hstate, hnone, _, hseal⟩ := (agrees_of_run _ (.inl ⟨_, rfl⟩) acceptedDraft).2 hmoves
  exact ⟨hmoves, hstate, hnone, hseal⟩

/-- A draft can be mined without ever having had a hash. -/
theorem not_forall_agrees :
    ¬ ∀ (tx : Transaction) (ops : List Op),
      (afterAll Curve.ed25519 ops (draft tx)).state = .draft ↔
        (afterAll Curve.ed25519 ops (draft tx)).hash = none :=
  fun h => nomatch (h Transaction.signedWithdrawal acceptedDraft).mpr rfl

end KernelWallet.Session
