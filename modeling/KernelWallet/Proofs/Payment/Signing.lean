import KernelWallet.Proofs.Key
import KernelWallet.Proofs.Payment.Balance
import KernelWallet.Proofs.Placement

/-! The three ways to sign as one: checks, then a signature for each input that is asked for, then
all of them placed. -/

namespace KernelWallet

variable {E : Curve}

namespace InputSignature

/-- The slot is the one named, or the first that holds the key. -/
theorem slotOf_eq_some_iff {keys : List Key} {publicKey : Key} {slot : Option Nat} {n : Nat} :
    slotOf keys publicKey slot = some n ↔ keys[n]? = some publicKey ∧
      (∀ m, slot = some m → n = m) ∧ (slot = none → ∀ m < n, keys[m]? ≠ some publicKey) := by
  cases slot with
  | some m =>
    rw [slotOf]
    by_cases hm : keys[m]? = some publicKey
    · rw [if_pos hm]
      constructor
      · intro h
        obtain rfl := Option.some.inj h
        exact ⟨hm, fun k hk => Option.some.inj hk, nofun⟩
      · rintro ⟨_, hn, _⟩
        rw [hn m rfl]
    · rw [if_neg hm]
      constructor
      · exact nofun
      · rintro ⟨hkey, hn, _⟩
        obtain rfl := hn m rfl
        exact absurd hkey hm
  | none =>
    rw [slotOf, List.findIdx?_eq_some_iff_getElem]
    simp only [beq_iff_eq]
    constructor
    · rintro ⟨hlt, hkey, hfirst⟩
      refine ⟨List.getElem?_eq_some_iff.mpr ⟨hlt, hkey⟩, nofun, fun _ m hm h => ?_⟩
      exact hfirst m hm (List.getElem?_eq_some_iff.mp h).2
    · rintro ⟨hkey, _, hfirst⟩
      obtain ⟨hlt, hkey⟩ := List.getElem?_eq_some_iff.mp hkey
      refine ⟨hlt, hkey, fun m hm h => ?_⟩
      exact hfirst trivial m hm (List.getElem?_eq_some_iff.mpr ⟨_, h⟩)

theorem make_eq_ok_iff {hash : Hash} {input : Nat} {output : Spendable} {oneTime : Key}
    {slot : Option Nat} {x : InputSignature} :
    make E hash input output oneTime slot = .ok x ↔
      ∃ publicKey n sig, oneTime.publicKey E = .ok publicKey ∧
        slotOf output.keys publicKey slot = some n ∧ oneTime.signHash E hash = .ok sig ∧
        x = ⟨input, UInt16.ofNat n, sig⟩ := by
  simp only [make, bind_eq_ok_iff, mapError_eq_ok_iff]
  refine exists_congr fun publicKey => ?_
  cases hslot : slotOf output.keys publicKey slot with
  | none => simp [throw, throwThe, MonadExceptOf.throw]
  | some n =>
    simp only [bind_eq_ok_iff, mapError_eq_ok_iff, Option.some.injEq]
    constructor
    · rintro ⟨hpublic, sig, hsig, h⟩
      exact ⟨n, sig, hpublic, rfl, hsig, (Except.ok.inj h).symm⟩
    · rintro ⟨_, sig, hpublic, rfl, hsig, rfl⟩
      exact ⟨hpublic, sig, hsig, rfl⟩

end InputSignature

/-- An input to sign, the output that it spends, the key to sign with and the slot of that key, if
it is named. -/
structure SigningJob where
  input : Nat
  output : Spendable
  oneTime : Except PaymentError Key
  slot : Option Nat

def SigningJob.make (E : Curve) (hash : Hash) (j : SigningJob) :
    Except PaymentError InputSignature := do
  InputSignature.make E hash j.input j.output (← j.oneTime) j.slot

inductive SigningRequest where
  | withViews (privateSpend : Key) (outputs : List Spendable) (views : List Key)
  | single (privateSpend : Key) (input : Nat) (output : Spendable) (view : Key) (slot : Option Nat)
  | withAccount (a : Account) (outputs : List Spendable)

namespace SigningRequest

def run (E : Curve) : SigningRequest → SessionM PaymentError Unit
  | withViews privateSpend outputs views => Session.signWithViews E privateSpend outputs views
  | single privateSpend input output view slot =>
    Session.signInput E privateSpend input output view slot
  | withAccount a outputs => Session.signWithAccount E a outputs

/-- What is checked of the session before anything is signed. -/
def check (s : Session) : SigningRequest → Except PaymentError Unit
  | withViews _ outputs views => do
    if views.length ≠ outputs.length then
      throw (.viewCountMismatch outputs.length views.length)
    s.checkSpends outputs
  | single .. => .ok ()
  | withAccount _ outputs => s.checkSpends outputs

def jobs (E : Curve) : SigningRequest → List SigningJob
  | withViews privateSpend outputs views =>
    (outputs.zip views).zipIdx.map fun ((output, view), i) =>
      ⟨i, output, Session.oneTimeKey view privateSpend, none⟩
  | single privateSpend input output view slot =>
    [⟨input, output, Session.oneTimeKey view privateSpend, slot⟩]
  | withAccount a outputs =>
    outputs.zipIdx.map fun (output, i) =>
      ⟨i, output, (Ghost.privateKey E output.mask a.privateView a.privateSpend output.index
        output.version).mapError .key, none⟩

/-- All signatures, made of the session as it is. -/
def signatures (E : Curve) (s : Session) (r : SigningRequest) :
    Except PaymentError (List InputSignature) := do
  r.check s
  let hash ← s.sealedHash.mapError PaymentError.signature
  (r.jobs E).mapM (SigningJob.make E hash)

end SigningRequest

theorem Session.signEach_eq {α : Type} (hash : Hash) (oneTime : α → Except PaymentError Key)
    (output : α → Spendable) (position : Nat) (l : List α) :
    signEach E hash oneTime output position l =
      ((l.zipIdx position).map fun (a, i) =>
        (⟨i, output a, oneTime a, none⟩ : SigningJob)).mapM (SigningJob.make E hash) := by
  induction l generalizing position with
  | nil => rfl
  | cons a l ih =>
    rw [signEach, List.zipIdx_cons, List.map_cons, List.mapM_cons]
    simp only [ih, SigningJob.make, bind_assoc]

theorem Session.checkOutpoints_eq_ok_iff {position : Nat} {inputs : List Input}
    {outputs : List Spendable} (hlen : inputs.length = outputs.length) :
    checkOutpoints position inputs outputs = .ok () ↔
      List.Forall₂ (fun i o => o.isOutpoint i.hash i.index = true) inputs outputs := by
  induction inputs generalizing position outputs with
  | nil =>
    obtain rfl := List.length_eq_zero_iff.mp hlen.symm
    exact iff_of_true rfl .nil
  | cons i inputs ih =>
    cases outputs with
    | nil => exact absurd hlen (by simp)
    | cons o outputs =>
      rw [checkOutpoints, guard_bind_eq_ok_iff, ih (Nat.succ.inj hlen), List.forall₂_cons]
      simp

theorem Session.checkSpends_eq_ok_iff {s : Session} {outputs : List Spendable} :
    s.checkSpends outputs = .ok () ↔
      List.Forall₂ (fun i o => o.isOutpoint i.hash i.index = true) s.tx.inputs outputs := by
  rw [checkSpends, guard_bind_eq_ok_iff, not_not]
  constructor
  · rintro ⟨hlen, hcheck⟩
    exact (checkOutpoints_eq_ok_iff hlen).mp hcheck
  · intro h
    exact ⟨h.length_eq, (checkOutpoints_eq_ok_iff h.length_eq).mpr h⟩

section

variable {ε α β : Type}

theorem liftExcept_bind (x : Except ε α) (f : α → Except ε β) :
    (liftExcept (x >>= f) : SessionM ε β) = liftExcept x >>= fun a => liftExcept (f a) := by
  cases x <;> rfl

theorem run_liftExcept_bind (x : Except ε α) (next : α → SessionM ε β) (s : Session) :
    (liftExcept x >>= next).run s = match x with
      | .ok a => (next a).run s
      | .error e => .error e s := by
  cases x <;> rfl

end

namespace SigningRequest

/-- Nothing is placed before all signatures are made. -/
theorem run_eq (r : SigningRequest) (s : Session) :
    (r.run E).run s = (liftExcept (r.signatures E s) >>= Session.place).run s := by
  rw [signatures, liftExcept_bind, bind_assoc]
  cases r with
  | withViews privateSpend outputs views =>
    by_cases hlen : views.length ≠ outputs.length
    · simp only [run, check, Session.signWithViews, if_pos hlen]
      rfl
    · simp only [run, check, Session.signWithViews, if_neg hlen, liftExcept_bind, bind_assoc,
        Session.signEach_eq]
      rfl
  | single privateSpend input output view slot =>
    simp only [run, check, Session.signInput, jobs, List.mapM_cons, List.mapM_nil, SigningJob.make,
      liftExcept_bind, bind_assoc, pure_bind]
    rfl
  | withAccount a outputs =>
    simp only [run, check, Session.signWithAccount, liftExcept_bind, bind_assoc,
      Session.signEach_eq]
    rfl

variable {r : SigningRequest} {s t : Session} {xs : List InputSignature}

theorem signatures_eq_ok_iff :
    r.signatures E s = .ok xs ↔ r.check s = .ok () ∧ ∃ hash, s.hash = some hash ∧
      List.Forall₂ (fun j x => SigningJob.make E hash j = .ok x) (r.jobs E) xs := by
  rw [signatures, check_bind_eq_ok_iff, bind_eq_ok_iff]
  simp only [mapError_eq_ok_iff, Session.sealedHash_eq_ok_iff, mapM_eq_ok_iff]

theorem run_eq_ok_iff :
    (r.run E).run s = .ok () t ↔ ∃ xs, r.signatures E s = .ok xs ∧
      (∀ x ∈ xs, x.input < s.tx.inputs.length) ∧ t = xs.foldl Session.placed s := by
  rw [run_eq, run_liftExcept_bind]
  cases hxs : r.signatures E s with
  | error e => simp
  | ok xs =>
    obtain ⟨_, hash, hhash, _⟩ := signatures_eq_ok_iff.mp hxs
    simp [Session.run_place_eq_ok_iff, hhash]

theorem eq_of_run_eq_error {e : PaymentError} (h : (r.run E).run s = .error e t) : t = s := by
  rw [run_eq, run_liftExcept_bind] at h
  cases hxs : r.signatures E s with
  | error e' =>
    rw [hxs] at h
    exact (EStateM.Result.error.inj h).2.symm
  | ok xs =>
    rw [hxs] at h
    exact Session.eq_of_run_place_eq_error h

theorem nodup_input_jobs (E : Curve) (r : SigningRequest) :
    ((r.jobs E).map SigningJob.input).Nodup := by
  cases r with
  | withViews privateSpend outputs views =>
    rw [jobs, List.map_map]
    exact List.nodup_zipIdx_map_snd _
  | single => exact List.nodup_singleton _
  | withAccount a outputs =>
    rw [jobs, List.map_map]
    exact List.nodup_zipIdx_map_snd _

end SigningRequest

theorem SigningJob.make_eq_ok_iff {hash : Hash} {j : SigningJob} {x : InputSignature} :
    j.make E hash = .ok x ↔ ∃ key publicKey n sig, j.oneTime = .ok key ∧
      key.publicKey E = .ok publicKey ∧
      InputSignature.slotOf j.output.keys publicKey j.slot = some n ∧
      key.signHash E hash = .ok sig ∧ x = ⟨j.input, UInt16.ofNat n, sig⟩ := by
  rw [make, bind_eq_ok_iff]
  simp only [InputSignature.make_eq_ok_iff, exists_and_left]

theorem Session.oneTimeKey_ofScalar (a b : Scalar) :
    oneTimeKey (Key.ofScalar a) (Key.ofScalar b) = .ok (Key.ofScalar (a + b)) := by
  rw [oneTimeKey, Key.scalar_ofScalar, Key.scalar_ofScalar]
  rfl

/-- A key that is a scalar signs wherever its public key has a slot. -/
theorem SigningJob.exists_make_ofScalar (hash : Hash) {j : SigningJob} {a : Scalar} {n : Nat}
    (hkey : j.oneTime = .ok (Key.ofScalar a))
    (hslot : InputSignature.slotOf j.output.keys (Key.ofBaseMultiple E a) j.slot = some n) :
    ∃ sig, j.make E hash = .ok ⟨j.input, UInt16.ofNat n, sig⟩ := by
  obtain ⟨r, hr⟩ := Key.exists_sign (E := E) (Key.scalar_ofScalar a) hash.toBytes
  exact ⟨_, make_eq_ok_iff.mpr ⟨_, _, n, _, hkey, Key.publicKey_ofScalar a, hslot, hr, rfl⟩⟩

theorem map_input_of_make {hash : Hash} {js : List SigningJob} {xs : List InputSignature}
    (h : List.Forall₂ (fun j x => SigningJob.make E hash j = .ok x) js xs) :
    xs.map InputSignature.input = js.map SigningJob.input := by
  induction h with
  | nil => rfl
  | cons hx _ ih =>
    obtain ⟨_, _, _, _, _, _, _, _, rfl⟩ := SigningJob.make_eq_ok_iff.mp hx
    rw [List.map_cons, List.map_cons, ih]

/-- An input whose signatures change is that of a job. -/
theorem exists_job_of_signature?_ne {hash : Hash} {js : List SigningJob} {xs : List InputSignature}
    (h : List.Forall₂ (fun j x => SigningJob.make E hash j = .ok x) js xs)
    (hlt : ∀ x ∈ xs, x.input < s.tx.inputs.length) {input : Nat} {k : UInt16}
    (hchanged : (xs.foldl Session.placed s).signature? input k ≠ s.signature? input k) :
    ∃ j ∈ js, j.input = input := by
  by_contra hnone
  have hne : ∀ x ∈ xs, x.input ≠ input := by
    intro x hx heq
    have hmem : x.input ∈ js.map SigningJob.input := by
      rw [← map_input_of_make h]
      exact List.mem_map_of_mem hx
    obtain ⟨j, hj, hji⟩ := List.mem_map.mp hmem
    exact hnone ⟨j, hj, hji.trans heq⟩
  exact hchanged (Session.signature?_foldl_of_ne hlt hne k)

namespace SigningRequest

/-- Signing that fails, whatever the reason, leaves the session as it is. Signing that succeeds puts
one signature on each input that it signs, made with the one-time key of the input over the cached
hash, into the slot named or else the first that holds the public key. It touches no other slot, nor
anything but signatures. -/
theorem signature?_of_run (r : SigningRequest)
    (hkeys : ∀ j ∈ r.jobs E, j.output.keys.length ≤ 65536) (s t : Session) :
    (∀ e, (r.run E).run s = .error e t → t = s) ∧
    ((r.run E).run s = .ok () t →
      t.hash = s.hash ∧ t.state = s.state ∧ t.tx.payload = s.tx.payload ∧
      (∀ j ∈ r.jobs E, ∃ hash key publicKey sig, ∃ slot : UInt16,
        s.hash = some hash ∧ j.oneTime = .ok key ∧ key.publicKey E = .ok publicKey ∧
        j.output.keys[slot.toNat]? = some publicKey ∧ (∀ n, j.slot = some n → slot.toNat = n) ∧
        (j.slot = none → ∀ n < slot.toNat, j.output.keys[n]? ≠ some publicKey) ∧
        key.signHash E hash = .ok sig ∧
        ∀ k, t.signature? j.input k = if k = slot then some sig else s.signature? j.input k) ∧
      ∀ input, (∀ j ∈ r.jobs E, j.input ≠ input) →
        ∀ k, t.signature? input k = s.signature? input k) := by
  refine ⟨fun e => eq_of_run_eq_error, fun h => ?_⟩
  obtain ⟨xs, hxs, hlt, rfl⟩ := run_eq_ok_iff.mp h
  obtain ⟨_, hash, hhash, hmade⟩ := signatures_eq_ok_iff.mp hxs
  obtain ⟨signatures, hplaced⟩ := Session.exists_foldl_placed xs s
  have hinputs := map_input_of_make hmade
  have hdistinct : xs.Pairwise fun x y => x.input ≠ y.input := by
    have hnodup := nodup_input_jobs E r
    rw [← hinputs] at hnodup
    exact List.pairwise_map.mp hnodup
  refine ⟨by rw [hplaced]; rfl, by rw [hplaced]; rfl, by rw [hplaced]; rfl, ?_, ?_⟩
  · intro j hj
    obtain ⟨x, hx, hjx⟩ := exists_of_forall₂ hmade hj
    obtain ⟨key, publicKey, n, sig, hkey, hpublic, hslot, hsig, rfl⟩ :=
      SigningJob.make_eq_ok_iff.mp hjx
    obtain ⟨hn, hnamed, hfirst⟩ := InputSignature.slotOf_eq_some_iff.mp hslot
    have hlt' : n < 65536 := (List.getElem?_eq_some_iff.mp hn).1.trans_le (hkeys j hj)
    have hnat : (UInt16.ofNat n).toNat = n := by
      rw [UInt16.toNat_ofNat', Nat.mod_eq_of_lt hlt']
    refine ⟨hash, key, publicKey, sig, UInt16.ofNat n, hhash, hkey, hpublic, ?_⟩
    rw [hnat]
    exact ⟨hn, hnamed, hfirst, hsig, Session.signature?_foldl_of_mem hlt hdistinct hx⟩
  · intro input hinput k
    refine Session.signature?_foldl_of_ne hlt (fun x hx heq => ?_) k
    have hmem : x.input ∈ (r.jobs E).map SigningJob.input := by
      rw [← hinputs]
      exact List.mem_map_of_mem hx
    obtain ⟨j, hj, hji⟩ := List.mem_map.mp hmem
    exact hinput j hj (hji.trans heq)

theorem run_single (a b : Scalar) {hash : Hash} (hhash : s.hash = some hash) {input n : Nat}
    {output : Spendable} {slot : Option Nat}
    (hslot : InputSignature.slotOf output.keys (Key.ofBaseMultiple E (a + b)) slot = some n)
    (hinput : input < s.tx.inputs.length) :
    ∃ sig, ((single (Key.ofScalar b) input output (Key.ofScalar a) slot).run E).run s =
      .ok () (s.placed ⟨input, UInt16.ofNat n, sig⟩) := by
  let r : SigningRequest := single (Key.ofScalar b) input output (Key.ofScalar a) slot
  let j : SigningJob :=
    ⟨input, output, Session.oneTimeKey (Key.ofScalar a) (Key.ofScalar b), slot⟩
  have hkey : j.oneTime = .ok (Key.ofScalar (a + b)) := Session.oneTimeKey_ofScalar a b
  obtain ⟨sig, hmake⟩ := SigningJob.exists_make_ofScalar hash hkey hslot
  have hsigns : r.signatures E s = .ok [⟨input, UInt16.ofNat n, sig⟩] :=
    signatures_eq_ok_iff.mpr ⟨rfl, hash, hhash, .cons hmake .nil⟩
  exact ⟨sig, run_eq_ok_iff.mpr ⟨_, hsigns, List.forall_mem_singleton.mpr hinput, rfl⟩⟩

/-- Whoever holds the key of both slots can sign in the second. -/
theorem signature?_of_run_secondSlot :
    ∃ p fetched e s output, p = Payment.splittingOf Curve.ed25519 (3 + 4) 2 ∧
      p.build Curve.ed25519 fetched e = .ok s ∧ p.inputs[0]? = some output ∧
      ∃ r t sig, r = single (Key.ofScalar 4) 0 output (Key.ofScalar 3) (some 1) ∧
        (∀ j ∈ r.jobs Curve.ed25519, j.output.keys.length ≤ 65536) ∧
        (r.run Curve.ed25519).run s = .ok () t ∧ t.tx.payload = s.tx.payload ∧
        t.signature? 0 1 = some sig ∧ t.signature? 0 0 = none := by
  let key := Key.ofBaseMultiple Curve.ed25519 (3 + 4)
  let p := Payment.splittingOf Curve.ed25519 (3 + 4) 2
  obtain ⟨_, _, ghost, hash, hbuild⟩ := Payment.exists_build_splittingOf (3 + 4) 2
  let s : Session := ⟨Payment.splitTransaction ghost, .built, some hash⟩
  obtain ⟨output, houtput, hkeys⟩ : ∃ output, p.inputs[0]? = some output ∧
      output.keys = [key, key] := ⟨_, rfl, rfl⟩
  have hslot : InputSignature.slotOf output.keys key (some 1) = some 1 := by
    simp [InputSignature.slotOf, hkeys]
  let r := single (Key.ofScalar 4) 0 output (Key.ofScalar 3) (some 1)
  have hlength : ∀ j ∈ r.jobs Curve.ed25519, j.output.keys.length ≤ 65536 := by
    simp [r, jobs, hkeys]
  have hinput : 0 < s.tx.inputs.length := Nat.zero_lt_two
  obtain ⟨made, hrun⟩ := run_single 3 4 rfl hslot hinput
  obtain ⟨_, _, hpayload, hsigned, _⟩ := (signature?_of_run r hlength s _).2 hrun
  obtain ⟨_, _, _, sig, slot, _, _, _, _, hnamed, _, _, hkept⟩ := hsigned _ (.head _)
  have hone : slot = 1 := UInt16.toNat_inj.mp (hnamed 1 rfl)
  refine ⟨p, _, _, s, output, rfl, hbuild, houtput, r, _, sig, rfl, hlength, hrun, hpayload, ?_, ?_⟩
  · rw [hkept 1, if_pos hone.symm]
  · rw [hkept 0, if_neg (by rw [hone]; decide)]
    rfl

end SigningRequest

end KernelWallet
