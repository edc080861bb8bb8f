import KernelWallet.Proofs.Placement

/-! Co-signers who place their signatures one after the other. What comes of a signature depends on
the input that it is for and on nothing placed before it, and signatures for different slots end up
the same in whatever order they are placed. -/

namespace KernelWallet

theorem SignerMap.insert_comm (m : SignerMap) {k k' : UInt16} (h : k ≠ k') (sig sig' : Signature) :
    (m.insert k sig).insert k' sig' = (m.insert k' sig').insert k sig := by
  refine ext_get? fun slot => ?_
  simp only [get?_insert]
  by_cases hk : slot = k
  · have hne : slot ≠ k' := hk ▸ h
    rw [if_neg hne, if_pos hk, if_pos hk]
  · rw [if_neg hk, if_neg hk]

namespace Session

variable {s : Session} {x y : InputSignature} {xs ys : List InputSignature}

/-! ## Two signatures -/

/-- One signature brings the groups up to the inputs, so that the next one adds none. -/
theorem paddedGroups_placed (s : Session) (x : InputSignature) :
    (s.placed x).paddedGroups = s.paddedGroups.modify x.input (·.insert x.slot x.signature) := by
  have hlen : (s.placed x).tx.inputs.length - (s.placed x).groups.length = 0 := by
    rw [length_groups_placed]
    exact Nat.sub_eq_zero_of_le (Nat.le_max_right _ _)
  rw [paddedGroups, hlen, List.replicate_zero, List.append_nil, groups_placed]

theorem placed_comm (h : x.input = y.input → x.slot ≠ y.slot) :
    (s.placed x).placed y = (s.placed y).placed x := by
  have hgroups : ((s.placed x).paddedGroups.modify y.input (·.insert y.slot y.signature)) =
      ((s.placed y).paddedGroups.modify x.input (·.insert x.slot x.signature)) := by
    rw [paddedGroups_placed, paddedGroups_placed]
    by_cases hinput : x.input = y.input
    · rw [hinput, List.modify_modify_eq, List.modify_modify_eq]
      congr 1
      funext m
      exact m.insert_comm (h hinput) x.signature y.signature
    · exact List.modify_modify_ne _ _ _ hinput
  exact congrArg (fun gs => s.withSignatures (.groups gs)) hgroups

theorem foldl_placed_perm (hperm : xs.Perm ys) (hxs : (xs.map fun x => (x.input, x.slot)).Nodup)
    (s : Session) : ys.foldl placed s = xs.foldl placed s := by
  refine (hperm.foldl_eq' (fun x hx y hy z => ?_) s).symm
  by_cases hxy : x = y
  · rw [hxy]
  · exact placed_comm fun hinput hslot =>
      hxy (List.inj_on_of_nodup_map hxs hx hy (Prod.ext hinput hslot))

/-! ## One call after the other -/

/-- What comes of placing a signature, and the session that it leaves behind. -/
def attempt (x : InputSignature) (s : Session) : Except SignatureError Unit × Session :=
  match (setSignature x.input x.slot x.signature).run s with
  | .ok _ t => (.ok (), t)
  | .error e t => (.error e, t)

/-- Places signatures one after the other, each on what the one before it left behind, whether that
was placed or not. Gives what came of each. -/
def attemptAll : List InputSignature → Session → List (Except SignatureError Unit) × Session
  | [], s => ([], s)
  | x :: xs, s =>
    let (outcome, t) := attempt x s
    let (outcomes, u) := attemptAll xs t
    (outcome :: outcomes, u)

/-- What comes of placing a signature on a session whose hash is cached. -/
def verdict (s : Session) (x : InputSignature) : Except SignatureError Unit :=
  if x.input < s.tx.inputs.length then .ok () else .error (.inputOutOfRange x.input)

theorem attempt_eq (hhash : s.hash.isSome = true) (x : InputSignature) :
    attempt x s = (s.verdict x, if x.input < s.tx.inputs.length then s.placed x else s) := by
  have hsealed : ¬ s.hash.isNone = true := by simpa [Option.isSome_iff_ne_none] using hhash
  rw [attempt, run_setSignature, if_neg hsealed, verdict]
  by_cases hlt : x.input < s.tx.inputs.length
  · rw [if_neg (Nat.not_le.mpr hlt), if_pos hlt, if_pos hlt]
    rfl
  · rw [if_pos (Nat.not_lt.mp hlt), if_neg hlt, if_neg hlt]

/-- The inputs and the hash stay, and they are all that a signature is judged by. -/
theorem attemptAll_eq (hhash : s.hash.isSome = true) (xs : List InputSignature) :
    attemptAll xs s = (xs.map s.verdict,
      (xs.filter fun x => x.input < s.tx.inputs.length).foldl placed s) := by
  induction xs generalizing s with
  | nil => rfl
  | cons x xs ih =>
    rw [attemptAll, attempt_eq hhash, List.map_cons, List.filter_cons]
    by_cases hlt : x.input < s.tx.inputs.length
    · have hrest := ih (s := s.placed x) hhash
      simp only [hlt, decide_true, if_true, hrest]
      rfl
    · simp only [hlt, decide_false, if_false, Bool.false_eq_true, ih hhash]

/-- Signatures for different slots may be placed in any order. Each is placed, or refused because
the transaction has no such input, as it would be by itself. The session in the end is the same, to
the last byte written of it: it has every signature that was placed, and no other slot has
changed. -/
theorem attemptAll_perm (hhash : s.hash.isSome = true) (hperm : xs.Perm ys)
    (hdistinct : (xs.map fun x => (x.input, x.slot)).Nodup) :
    (attemptAll xs s).1 = xs.map s.verdict ∧ (attemptAll ys s).1 = ys.map s.verdict ∧
    (attemptAll ys s).2 = (attemptAll xs s).2 ∧
    (attemptAll ys s).2.raw = (attemptAll xs s).2.raw ∧
    (∀ x ∈ xs, x.input < s.tx.inputs.length →
      (attemptAll xs s).2.signature? x.input x.slot = some x.signature) ∧
    ∀ input slot, (∀ x ∈ xs, x.input = input → x.slot ≠ slot) →
      (attemptAll xs s).2.signature? input slot = s.signature? input slot := by
  let inRange (l : List InputSignature) := l.filter fun x => x.input < s.tx.inputs.length
  have hlt : ∀ x ∈ inRange xs, x.input < s.tx.inputs.length := fun x hx =>
    of_decide_eq_true (List.mem_filter.mp hx).2
  have hnodup : ((inRange xs).map fun x => (x.input, x.slot)).Nodup :=
    hdistinct.sublist (List.filter_sublist.map _)
  have hsame : (inRange ys).foldl placed s = (inRange xs).foldl placed s :=
    foldl_placed_perm (hperm.filter _) hnodup s
  rw [attemptAll_eq hhash xs, attemptAll_eq hhash ys]
  refine ⟨rfl, rfl, hsame, congrArg raw hsame, fun x hx hin => ?_, fun input slot hne => ?_⟩
  · exact signature?_foldl_self hlt hnodup (List.mem_filter.mpr ⟨hx, decide_eq_true hin⟩)
  · exact signature?_foldl_of_slot_ne hlt fun x hx => hne x (List.mem_filter.mp hx).1

/-- Signers 3 and 7 of the only input, and between them one of an input that is not there. -/
def coSigners : List InputSignature :=
  [⟨0, 7, ⟨Vector.replicate 64 7⟩⟩, ⟨1, 7, ⟨Vector.replicate 64 5⟩⟩,
    ⟨0, 3, ⟨Vector.replicate 64 3⟩⟩]

theorem attemptAll_perm_coSigners :
    ∃ s : Session, s.hash.isSome = true ∧ coSigners.Perm coSigners.reverse ∧
      (coSigners.map fun x => (x.input, x.slot)).Nodup ∧
      s.tx.signatures = Transaction.signedWithdrawal.signatures ∧
      (attemptAll coSigners.reverse s).1 = [.ok (), .error (.inputOutOfRange 1), .ok ()] ∧
      (attemptAll coSigners.reverse s).2 = (attemptAll coSigners s).2 ∧
      (attemptAll coSigners.reverse s).2.raw = (attemptAll coSigners s).2.raw ∧
      (attemptAll coSigners s).2.signature? 0 3 = some ⟨Vector.replicate 64 3⟩ := by
  let s : Session := ⟨Transaction.signedWithdrawal, .built, some Hash.zero⟩
  have hperm : coSigners.Perm coSigners.reverse := (List.reverse_perm coSigners).symm
  have hdistinct : (coSigners.map fun x => (x.input, x.slot)).Nodup := by decide
  obtain ⟨_, houtcomes, hsame, hraw, hplaced, _⟩ := attemptAll_perm (s := s) rfl hperm hdistinct
  have hlast := hplaced ⟨0, 3, ⟨Vector.replicate 64 3⟩⟩ (by simp [coSigners]) Nat.one_pos
  exact ⟨s, rfl, hperm, hdistinct, rfl, houtcomes, hsame, hraw, hlast⟩

end Session

end KernelWallet
