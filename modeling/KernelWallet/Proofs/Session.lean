import KernelWallet.Curve.Ed25519
import KernelWallet.Proofs.Wire.ReadsBack
import KernelWallet.Transaction.Session

/-! What the operations on a session do, one after another in any order. -/

namespace KernelWallet.Session

/-! ## One operation -/

theorem sealedHash_eq_ok_iff {s : Session} {hash : Hash} :
    s.sealedHash = .ok hash ↔ s.hash = some hash := by
  rw [sealedHash]
  cases s.hash <;> simp

theorem run_edit (f : Transaction → Transaction) (s : Session) :
    (edit f).run s =
      if s.hash.isSome then .error .sealed s else .ok () { s with tx := f s.tx } := by
  obtain ⟨tx, state, _ | hash⟩ := s <;> rfl

theorem run_advance (next : TxState) (s : Session) :
    (advance next).run s = if s.state.canAdvanceTo next then .ok () { s with state := next }
      else .error (.invalidTransition s.state next) s := by
  obtain ⟨tx, state, hash⟩ := s
  cases state <;> cases next <;> rfl

theorem run_setSignature (input : Nat) (signer : UInt16) (sig : Signature) (s : Session) :
    (setSignature input signer sig).run s =
      if s.hash.isNone then .error .notSealed s
      else if s.tx.inputs.length ≤ input then .error (.inputOutOfRange input) s
      else .ok () (s.withSignatures
        (.groups (s.paddedGroups.modify input (·.insert signer sig)))) := by
  obtain ⟨tx, state, _ | hash⟩ := s
  · rfl
  · by_cases h : tx.inputs.length ≤ input <;> simp [h, setSignature]

theorem run_setAggregated (agg : AggregatedSignature) (s : Session) :
    (setAggregated agg).run s = if s.hash.isNone then .error .notSealed s
      else .ok () (s.withSignatures (.aggregated agg)) := by
  obtain ⟨tx, state, _ | hash⟩ := s <;> rfl

/-- Sealing goes through the checks in order, each of which ends it, and changes the session
after the last of them. -/
theorem run_sealBody (E : Curve) (s : Session) :
    (sealBody E).run s = match s.hash with
      | some hash => .ok hash s
      | none => match s.tx.validate E with
        | .error e => .error (.validation e) s
        | .ok () => match s.tx.payloadHash with
          | .error e => .error (.encode e) s
          | .ok hash =>
            if s.state.canAdvanceTo .built then
              .ok hash { s with state := .built, hash := some hash }
            else .error (.state (.invalidTransition s.state .built)) s := by
  obtain ⟨tx, state, _ | hash⟩ := s
  · cases hv : tx.validate E with
    | error e =>
      simp [sealBody, hv]
      rfl
    | ok u =>
      cases hh : tx.payloadHash with
      | error e =>
        simp [sealBody, hv, hh]
        rfl
      | ok hash =>
        simp [sealBody, hv, hh]
        cases state <;> rfl
  · rfl

/-! ## Steps -/

inductive Op where
  | edit (f : Transaction → Transaction)
  | sealBody
  | advance (next : TxState)
  | setSignature (input : Nat) (signer : UInt16) (sig : Signature)
  | setAggregated (agg : AggregatedSignature)

def Op.exec (E : Curve) : Op → SessionM TransactionError Unit
  | edit f => (Session.edit f).adaptExcept .state
  | sealBody => do let _ ← Session.sealBody E
  | advance next => (Session.advance next).adaptExcept .state
  | setSignature input signer sig => (Session.setSignature input signer sig).adaptExcept .signature
  | setAggregated agg => (Session.setAggregated agg).adaptExcept .signature

/-- All that an operation can do to a session. -/
inductive Step (E : Curve) : Session → Session → Prop where
  | same (s : Session) : Step E s s
  | edited {s : Session} (f : Transaction → Transaction) (h : s.hash = none) :
      Step E s { s with tx := f s.tx }
  | sealed {s : Session} {hash : Hash} (hnone : s.hash = none) (hvalid : s.tx.validate E = .ok ())
      (hhash : s.tx.payloadHash = .ok hash) (hstate : s.state.canAdvanceTo .built = true) :
      Step E s { s with state := .built, hash := some hash }
  | advanced {s : Session} {next : TxState} (h : s.state.canAdvanceTo next = true) :
      Step E s { s with state := next }
  | signed {s : Session} (signatures : Signatures) (h : s.hash.isSome = true) :
      Step E s (s.withSignatures signatures)

/-- An operation that fails leaves the session as it is, and one that succeeds takes a step. -/
theorem exec_cases (E : Curve) (op : Op) (s : Session) :
    (∃ e, (op.exec E).run s = .error e s) ∨ ∃ s', (op.exec E).run s = .ok () s' ∧ Step E s s' := by
  cases op with
  | edit f =>
    rw [Op.exec, EStateM.run_adaptExcept, run_edit]
    by_cases hs : s.hash.isSome = true
    · rw [if_pos hs]
      exact .inl ⟨_, rfl⟩
    · rw [if_neg hs]
      exact .inr ⟨_, rfl, .edited f (Option.not_isSome_iff_eq_none.mp hs)⟩
  | sealBody =>
    rw [Op.exec, EStateM.run_bind, run_sealBody]
    cases hs : s.hash with
    | some hash => exact .inr ⟨s, rfl, .same s⟩
    | none =>
      cases hvalid : s.tx.validate E with
      | error e => exact .inl ⟨_, rfl⟩
      | ok u =>
        cases hhash : s.tx.payloadHash with
        | error e => exact .inl ⟨_, rfl⟩
        | ok hash =>
          by_cases hstate : s.state.canAdvanceTo .built = true
          · simp only [hstate, if_true]
            exact .inr ⟨_, rfl, .sealed hs hvalid hhash hstate⟩
          · simp only [hstate]
            exact .inl ⟨_, rfl⟩
  | advance next =>
    rw [Op.exec, EStateM.run_adaptExcept, run_advance]
    by_cases hstate : s.state.canAdvanceTo next = true
    · rw [if_pos hstate]
      exact .inr ⟨_, rfl, .advanced hstate⟩
    · rw [if_neg hstate]
      exact .inl ⟨_, rfl⟩
  | setSignature input signer sig =>
    rw [Op.exec, EStateM.run_adaptExcept, run_setSignature]
    cases hs : s.hash with
    | none => exact .inl ⟨_, rfl⟩
    | some hash =>
      by_cases hlen : s.tx.inputs.length ≤ input
      · rw [if_neg (by simp), if_pos hlen]
        exact .inl ⟨_, rfl⟩
      · rw [if_neg (by simp), if_neg hlen]
        exact .inr ⟨_, rfl, .signed _ (by rw [hs]; rfl)⟩
  | setAggregated agg =>
    rw [Op.exec, EStateM.run_adaptExcept, run_setAggregated]
    cases hs : s.hash with
    | none => exact .inl ⟨_, rfl⟩
    | some hash => exact .inr ⟨_, rfl, .signed _ (by rw [hs]; rfl)⟩

theorem eq_of_exec_eq_error {E : Curve} {op : Op} {s s' : Session} {e : TransactionError}
    (h : (op.exec E).run s = .error e s') : s' = s := by
  rcases exec_cases E op s with ⟨e', he⟩ | ⟨t, ht, _⟩
  · rw [he] at h
    exact (EStateM.Result.error.inj h).2.symm
  · rw [ht] at h
    exact absurd h (by simp)

/-! ## What a step keeps -/

/-- The name of a transaction is taken of its payload, which has no signatures. -/
theorem payloadHash_congr {t t' : Transaction} (h : t.payload = t'.payload) :
    t.payloadHash = t'.payloadHash := by
  have hpayload : ∀ tx : Transaction, tx.payload.payloadHash = tx.payloadHash := fun _ => rfl
  rw [← hpayload t, h, hpayload t']

/-- No check looks at the signatures. -/
theorem validate_congr {E : Curve} {t t' : Transaction} (h : t.payload = t'.payload) :
    t.validate E = t'.validate E := by
  have hpayload : ∀ tx : Transaction, tx.payload.validate E = tx.validate E := fun _ => rfl
  rw [← hpayload t, h, hpayload t']

/-- The cached hash is the hash of the body. -/
def NamesBody (s : Session) : Prop :=
  ∀ hash, s.hash = some hash → s.tx.payloadHash = .ok hash

/-- The body passes the checks once its hash is cached. -/
def SealedValid (E : Curve) (s : Session) : Prop :=
  s.hash.isSome = true → s.tx.validate E = .ok ()

namespace Step

variable {E : Curve} {s s' : Session}

theorem frozen (h : Step E s s') {hash : Hash} (hs : s.hash = some hash) :
    s'.hash = some hash ∧ s'.tx.payload = s.tx.payload := by
  cases h with
  | same => exact ⟨hs, rfl⟩
  | edited f hnone => exact absurd (hnone.symm.trans hs) (by simp)
  | sealed hnone => exact absurd (hnone.symm.trans hs) (by simp)
  | advanced => exact ⟨hs, rfl⟩
  | signed => exact ⟨hs, rfl⟩

theorem namesBody (h : Step E s s') (hs : s.NamesBody) : s'.NamesBody := by
  intro hash hhash
  cases hsome : s.hash with
  | some hash' =>
    obtain ⟨hkept, hpayload⟩ := h.frozen hsome
    obtain rfl := Option.some.inj (hkept.symm.trans hhash)
    rw [payloadHash_congr hpayload]
    exact hs _ hsome
  | none =>
    cases h with
    | same | advanced | edited => exact absurd (hsome.symm.trans hhash) (by simp)
    | sealed _ _ hbody => exact Option.some.inj hhash ▸ hbody
    | signed _ hsigned => simp [hsome] at hsigned

theorem sealedValid (h : Step E s s') (hs : s.SealedValid E) : s'.SealedValid E := by
  intro hhash
  cases h with
  | same | advanced => exact hs hhash
  | edited f hnone => exact absurd hhash (by simp [hnone])
  | sealed _ hvalid => exact hvalid
  | signed signatures hsigned =>
    have hpayload : (s.withSignatures signatures).tx.payload = s.tx.payload := rfl
    rw [validate_congr hpayload]
    exact hs hsigned

theorem state (h : Step E s s') : s'.state = s.state ∨ s.state.canAdvanceTo s'.state = true := by
  cases h with
  | same | edited | signed => exact .inl rfl
  | sealed _ _ _ hstate => exact .inr hstate
  | advanced hstate => exact .inr hstate

end Step

/-! ## Runs -/

def Op.after (E : Curve) (op : Op) (s : Session) : Session :=
  match (op.exec E).run s with
  | .ok _ s' => s'
  | .error _ s' => s'

/-- The session that a run of operations leaves behind. -/
def afterAll (E : Curve) (ops : List Op) (s : Session) : Session :=
  ops.foldl (fun s op => op.after E s) s

theorem afterAll_append (E : Curve) (ops ops' : List Op) (s : Session) :
    afterAll E (ops ++ ops') s = afterAll E ops' (afterAll E ops s) :=
  List.foldl_append

theorem step_after (E : Curve) (op : Op) (s : Session) : Step E s (op.after E s) := by
  rw [Op.after]
  rcases exec_cases E op s with ⟨e, he⟩ | ⟨s', hs', hstep⟩
  · rw [he]
    exact .same s
  · rw [hs']
    exact hstep

theorem steps_afterAll (E : Curve) (ops : List Op) (s : Session) :
    Relation.ReflTransGen (Step E) s (afterAll E ops s) := by
  induction ops generalizing s with
  | nil => exact .refl
  | cons op ops ih => exact .head (step_after E op s) (ih (op.after E s))

section

variable {E : Curve} {s s' : Session}

theorem frozen_of_steps (h : Relation.ReflTransGen (Step E) s s') {hash : Hash}
    (hs : s.hash = some hash) : s'.hash = some hash ∧ s'.tx.payload = s.tx.payload := by
  induction h with
  | refl => exact ⟨hs, rfl⟩
  | tail _ hstep ih =>
    obtain ⟨hhash, hpayload⟩ := hstep.frozen ih.1
    exact ⟨hhash, hpayload.trans ih.2⟩

theorem namesBody_of_steps (h : Relation.ReflTransGen (Step E) s s') (hs : s.NamesBody) :
    s'.NamesBody := by
  induction h with
  | refl => exact hs
  | tail _ hstep ih => exact hstep.namesBody ih

theorem sealedValid_of_steps (h : Relation.ReflTransGen (Step E) s s') (hs : s.SealedValid E) :
    s'.SealedValid E := by
  induction h with
  | refl => exact hs
  | tail _ hstep ih => exact hstep.sealedValid ih

theorem state_of_steps (h : Relation.ReflTransGen (Step E) s s')
    (hs : ∀ next, s.state.canAdvanceTo next = false) : s'.state = s.state := by
  induction h with
  | refl => rfl
  | tail _ hstep ih =>
    rcases hstep.state with hsame | hmove
    · exact hsame.trans ih
    · rw [ih, hs] at hmove
      exact absurd hmove (by simp)

end

theorem namesBody_draft (tx : Transaction) : (draft tx).NamesBody :=
  fun _ h => nomatch h

theorem namesBody_of_decode {b : Bytes} {s : Session} (h : decode b = .ok s) : s.NamesBody := by
  obtain ⟨tx, _, h⟩ := bind_eq_ok_iff.mp h
  obtain ⟨hash, hhash, h⟩ := bind_eq_ok_iff.mp h
  obtain rfl := Except.ok.inj h
  intro hash' hsome
  obtain rfl := Option.some.inj hsome
  cases hpayload : tx.payloadHash with
  | error e =>
    rw [hpayload] at hhash
    exact absurd hhash (by simp [Except.mapError])
  | ok hash'' =>
    rw [hpayload] at hhash
    rw [Except.ok.inj hhash]

theorem mem_edges_of_canAdvanceTo {current next : TxState}
    (h : current.canAdvanceTo next = true) :
    (current, next) ∈ [(TxState.draft, TxState.built), (.built, .submitted), (.built, .rejected),
      (.submitted, .mined), (.submitted, .rejected)] := by
  revert h
  cases current <;> cases next <;> decide

/-- In every run of operations from a draft or from bytes that were read: once a hash is cached,
it stays, the body stays and is what the hash is of, and sealing gives the hash and changes nothing;
the body of a draft has passed the checks by then; the state goes forward along its five edges and
ends when it is mined or rejected; and an operation that fails changes nothing. -/
theorem frozen_of_hash (E : Curve) {s : Session}
    (hs : (∃ tx, s = draft tx) ∨ ∃ b, decode b = .ok s) (before later : List Op) :
    (∀ hash, (afterAll E before s).hash = some hash →
      (afterAll E (before ++ later) s).hash = some hash ∧
      (afterAll E (before ++ later) s).tx.payload = (afterAll E before s).tx.payload ∧
      (afterAll E (before ++ later) s).tx.payloadHash = .ok hash ∧
      (sealBody E).run (afterAll E (before ++ later) s) =
        .ok hash (afterAll E (before ++ later) s)) ∧
    ((∃ tx, s = draft tx) → (afterAll E before s).hash.isSome = true →
      (afterAll E before s).tx.validate E = .ok ()) ∧
    (∀ op : Op, (op.after E (afterAll E before s)).state = (afterAll E before s).state ∨
      ((afterAll E before s).state, (op.after E (afterAll E before s)).state) ∈
        [(TxState.draft, TxState.built), (.built, .submitted), (.built, .rejected),
          (.submitted, .mined), (.submitted, .rejected)]) ∧
    ((afterAll E before s).state = .mined ∨ (afterAll E before s).state = .rejected →
      (afterAll E (before ++ later) s).state = (afterAll E before s).state) ∧
    ∀ (op : Op) e s', (op.exec E).run (afterAll E before s) = .error e s' →
      s' = afterAll E before s := by
  have hsteps := steps_afterAll E before s
  have hmore := steps_afterAll E later (afterAll E before s)
  have hnames : s.NamesBody := by
    rcases hs with ⟨tx, rfl⟩ | ⟨b, hb⟩
    · exact namesBody_draft tx
    · exact namesBody_of_decode hb
  rw [afterAll_append]
  refine ⟨fun hash hhash => ?_, ?_, fun op => ?_, fun hstate => ?_, fun op e s' h => ?_⟩
  · obtain ⟨hkept, hpayload⟩ := frozen_of_steps hmore hhash
    have hbody := namesBody_of_steps hmore (namesBody_of_steps hsteps hnames) hash hkept
    refine ⟨hkept, hpayload, hbody, ?_⟩
    rw [run_sealBody, hkept]
  · rintro ⟨tx, rfl⟩
    exact sealedValid_of_steps hsteps fun h => nomatch h
  · exact (step_after E op _).state.imp_right mem_edges_of_canAdvanceTo
  · refine state_of_steps hmore fun next => ?_
    rcases hstate with hstate | hstate <;> rw [hstate] <;> rfl
  · exact eq_of_exec_eq_error h

/-- A relayed withdrawal is submitted and signed anew; an edit of its body is refused. -/
def relay : List Op :=
  [.advance .submitted, .edit Transaction.payload, .setSignature 0 3 ⟨Vector.replicate 64 9⟩,
    .advance .mined]

theorem frozen_of_hash_relay :
    ∃ b s hash, decode b = .ok s ∧ s.hash = some hash ∧
      (afterAll Curve.ed25519 relay s).hash = some hash ∧
      (afterAll Curve.ed25519 relay s).tx.payload = s.tx.payload ∧
      (afterAll Curve.ed25519 relay s).tx.payloadHash = .ok hash ∧
      (afterAll Curve.ed25519 relay s).tx.signatures ≠ s.tx.signatures ∧
      (afterAll Curve.ed25519 relay s).state = .mined := by
  obtain ⟨body, hbody⟩ : ∃ body, Wire.writeBody Transaction.signedWithdrawal = .ok body :=
    ⟨_, rfl⟩
  have hread := Transaction.decode_header_append (by decide) (by decide) hbody
  obtain ⟨hash, hhash⟩ : ∃ hash, Transaction.signedWithdrawal.onWire.payloadHash = .ok hash :=
    ⟨_, rfl⟩
  have hdecode : decode (Wire.header Transaction.signedWithdrawal.version ++ body) =
      .ok ⟨Transaction.signedWithdrawal.onWire, .built, some hash⟩ := by
    rw [decode, hread]
    refine bind_eq_ok_iff.mpr ⟨_, rfl, bind_eq_ok_iff.mpr ⟨hash, ?_, rfl⟩⟩
    rw [hhash]
    rfl
  obtain ⟨hkept, hpayload, hnamed, _⟩ :=
    (frozen_of_hash Curve.ed25519 (.inr ⟨_, hdecode⟩) [] relay).1 hash rfl
  exact ⟨_, _, hash, hdecode, rfl, hkept, hpayload, hnamed, nofun, rfl⟩

end KernelWallet.Session
