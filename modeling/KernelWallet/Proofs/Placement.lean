import KernelWallet.Payment.Signing
import KernelWallet.Proofs.Session
import KernelWallet.Proofs.SignerMap

/-! Placing signatures on a session. Each goes to one slot of one input and leaves all other slots
as they are, and a signature that cannot be placed takes the others back with it. -/

namespace KernelWallet.Session

/-- The signature of an input in a slot. -/
def signature? (s : Session) (input : Nat) (slot : UInt16) : Option Signature :=
  s.groups[input]?.bind (·.get? slot)

/-- The session with a signature to each input, in order, and no other. -/
def signedBy (s : Session) (xs : List InputSignature) : Session :=
  s.withSignatures (.groups (xs.map fun x => SignerMap.single x.slot x.signature))

/-- The session with a signature in its slot. -/
def placed (s : Session) (x : InputSignature) : Session :=
  s.withSignatures (.groups (s.paddedGroups.modify x.input (·.insert x.slot x.signature)))

variable {s t : Session} {x : InputSignature} {xs : List InputSignature}

theorem length_paddedGroups (s : Session) :
    s.paddedGroups.length = max s.groups.length s.tx.inputs.length := by
  rw [paddedGroups, List.length_append, List.length_replicate]
  omega

/-- The groups added are empty. -/
theorem get?_paddedGroups (s : Session) (input : Nat) (slot : UInt16) :
    s.paddedGroups[input]?.bind (·.get? slot) = s.signature? input slot := by
  rw [paddedGroups, signature?, List.getElem?_append]
  by_cases h : input < s.groups.length
  · rw [if_pos h]
  · rw [if_neg h, List.getElem?_eq_none (Nat.not_lt.mp h), List.getElem?_replicate]
    split <;> rfl

theorem groups_placed (s : Session) (x : InputSignature) :
    (s.placed x).groups = s.paddedGroups.modify x.input (·.insert x.slot x.signature) :=
  rfl

theorem signature?_placed (h : x.input < s.tx.inputs.length) (input : Nat) (slot : UInt16) :
    (s.placed x).signature? input slot =
      if x.input = input ∧ slot = x.slot then some x.signature else s.signature? input slot := by
  rw [signature?, groups_placed, List.getElem?_modify, ← get?_paddedGroups s input]
  by_cases hinput : x.input = input
  · have hlt : input < s.paddedGroups.length := by
      rw [length_paddedGroups]
      omega
    rw [List.getElem?_eq_getElem hlt]
    simp [hinput, SignerMap.get?_insert]
  · simp [hinput]

theorem length_groups_placed (s : Session) (x : InputSignature) :
    (s.placed x).groups.length = max s.groups.length s.tx.inputs.length := by
  rw [groups_placed, List.length_modify, length_paddedGroups]

/-! ## One after the other -/

theorem exists_foldl_placed (xs : List InputSignature) (s : Session) :
    ∃ signatures, xs.foldl placed s = s.withSignatures signatures := by
  induction xs generalizing s with
  | nil => exact ⟨s.tx.signatures, rfl⟩
  | cons x xs ih =>
    obtain ⟨signatures, h⟩ := ih (s.placed x)
    exact ⟨signatures, h⟩

/-- A slot that none of the signatures is for is left as it is. -/
theorem signature?_foldl_of_slot_ne {input : Nat} {slot : UInt16}
    (hlt : ∀ x ∈ xs, x.input < s.tx.inputs.length)
    (hne : ∀ x ∈ xs, x.input = input → x.slot ≠ slot) :
    (xs.foldl placed s).signature? input slot = s.signature? input slot := by
  induction xs generalizing s with
  | nil => rfl
  | cons x xs ih =>
    obtain ⟨hx, hxs⟩ := List.forall_mem_cons.mp hlt
    obtain ⟨hxne, hxsne⟩ := List.forall_mem_cons.mp hne
    have hother : ¬ (x.input = input ∧ slot = x.slot) := fun h => hxne h.1 h.2.symm
    rw [List.foldl_cons, ih (s := s.placed x) hxs hxsne, signature?_placed hx, if_neg hother]

theorem signature?_foldl_of_ne {input : Nat} (hlt : ∀ x ∈ xs, x.input < s.tx.inputs.length)
    (hne : ∀ x ∈ xs, x.input ≠ input) (slot : UInt16) :
    (xs.foldl placed s).signature? input slot = s.signature? input slot :=
  signature?_foldl_of_slot_ne hlt fun x hx heq => absurd heq (hne x hx)

/-- Of signatures for different slots, each is found in its own. -/
theorem signature?_foldl_self (hlt : ∀ x ∈ xs, x.input < s.tx.inputs.length)
    (hxs : (xs.map fun x => (x.input, x.slot)).Nodup) (hx : x ∈ xs) :
    (xs.foldl placed s).signature? x.input x.slot = some x.signature := by
  obtain ⟨before, later, rfl⟩ := List.append_of_mem hx
  have hlater : ∀ y ∈ later, y.input = x.input → y.slot ≠ x.slot := by
    have hpairs := (List.pairwise_append.mp (List.pairwise_map.mp hxs)).2.1
    intro y hy hinput hslot
    exact (List.pairwise_cons.mp hpairs).1 y hy (Prod.ext hinput.symm hslot.symm)
  have hinputs : (before.foldl placed s).tx.inputs = s.tx.inputs := by
    obtain ⟨signatures, h⟩ := exists_foldl_placed before s
    rw [h]
    rfl
  have hx' : x.input < (before.foldl placed s).tx.inputs.length := hinputs ▸ hlt x hx
  have hlt' : ∀ y ∈ later, y.input < ((before.foldl placed s).placed x).tx.inputs.length :=
    fun y hy => hinputs ▸ hlt y (List.mem_append_right _ (List.mem_cons_of_mem x hy))
  rw [List.foldl_append, List.foldl_cons, signature?_foldl_of_slot_ne hlt' hlater,
    signature?_placed hx', if_pos ⟨rfl, rfl⟩]

/-- Of signatures for different inputs, each is the only change to its input. -/
theorem signature?_foldl_of_mem (hlt : ∀ x ∈ xs, x.input < s.tx.inputs.length)
    (hxs : xs.Pairwise fun x y => x.input ≠ y.input) (hx : x ∈ xs) (slot : UInt16) :
    (xs.foldl placed s).signature? x.input slot =
      if slot = x.slot then some x.signature else s.signature? x.input slot := by
  by_cases hslot : slot = x.slot
  · have hslots : (xs.map fun x => (x.input, x.slot)).Nodup :=
      List.pairwise_map.mpr (hxs.imp fun hne heq => hne (congrArg Prod.fst heq))
    rw [if_pos hslot, hslot, signature?_foldl_self hlt hslots hx]
  · have hinj : ∀ y ∈ xs, y.input = x.input → y = x := fun y hy heq =>
      List.inj_on_of_nodup_map (List.pairwise_map.mpr hxs) hy hx heq
    rw [if_neg hslot, signature?_foldl_of_slot_ne hlt]
    exact fun y hy heq => hinj y hy heq ▸ Ne.symm hslot

theorem signatures_foldl_placed (xs : List InputSignature)
    (h : s.tx.signatures = .groups s.groups) :
    (xs.foldl placed s).tx.signatures = .groups (xs.foldl placed s).groups := by
  induction xs generalizing s with
  | nil => exact h
  | cons x xs ih => exact ih (s := s.placed x) rfl

theorem length_groups_foldl_placed (xs : List InputSignature)
    (hlen : s.groups.length = s.tx.inputs.length) :
    (xs.foldl placed s).groups.length = s.tx.inputs.length := by
  induction xs generalizing s with
  | nil => exact hlen
  | cons x xs ih =>
    refine ih (s := s.placed x) ?_
    rw [length_groups_placed, hlen, Nat.max_self]
    rfl

theorem groups_foldl_placed (hlen : s.groups.length = s.tx.inputs.length)
    (hnone : ∀ input slot, s.signature? input slot = none)
    (hxs : xs.map InputSignature.input = List.range s.tx.inputs.length) :
    (xs.foldl placed s).groups = xs.map fun x => SignerMap.single x.slot x.signature := by
  have hcount : xs.length = s.tx.inputs.length := by
    rw [← List.length_map InputSignature.input, hxs, List.length_range]
  have hlt : ∀ x ∈ xs, x.input < s.tx.inputs.length := by
    intro x hx
    rw [← List.mem_range, ← hxs]
    exact List.mem_map_of_mem hx
  have hdistinct : xs.Pairwise fun x y => x.input ≠ y.input := by
    have hnodup : (xs.map InputSignature.input).Nodup := hxs ▸ List.nodup_range
    exact List.pairwise_map.mp hnodup
  refine List.ext_getElem ?_ fun i hi hi' => SignerMap.ext_get? fun k => ?_
  · rw [length_groups_foldl_placed xs hlen, List.length_map, hcount]
  · have hx : i < xs.length := by simpa using hi'
    have hinput : xs[i].input = i := by
      have hget := congrArg (fun l => l[i]?) hxs
      rw [List.getElem?_map, List.getElem?_eq_getElem hx, List.getElem?_range (hcount ▸ hx)] at hget
      exact Option.some.inj hget
    have hsig := signature?_foldl_of_mem hlt hdistinct (List.getElem_mem hx) k
    rw [hnone, hinput, signature?, List.getElem?_eq_getElem hi] at hsig
    rw [List.getElem_map, SignerMap.get?_single]
    exact hsig

/-- One signature to each input, placed on a session that has none. -/
theorem foldl_placed_eq_signedBy (hmap : s.tx.signatures = .groups s.groups)
    (hlen : s.groups.length = s.tx.inputs.length)
    (hnone : ∀ input slot, s.signature? input slot = none)
    (hxs : xs.map InputSignature.input = List.range s.tx.inputs.length) :
    xs.foldl placed s = s.signedBy xs := by
  have hsigs := signatures_foldl_placed xs hmap
  rw [groups_foldl_placed hlen hnone hxs] at hsigs
  obtain ⟨signatures, hplaced⟩ := exists_foldl_placed xs s
  rw [hplaced] at hsigs ⊢
  rw [signedBy, ← hsigs]
  rfl

theorem run_bind_eq_ok_iff {ε α β : Type} {m : SessionM ε α} {next : α → SessionM ε β} {b : β} :
    (m >>= next).run s = .ok b t ↔ ∃ a u, m.run s = .ok a u ∧ (next a).run u = .ok b t := by
  rw [EStateM.run_bind]
  cases m.run s <;> simp

theorem run_setSignature_eq_ok_iff :
    (setSignature x.input x.slot x.signature).run s = .ok () t ↔
      s.hash.isSome = true ∧ x.input < s.tx.inputs.length ∧ t = s.placed x := by
  rw [run_setSignature]
  by_cases hnone : s.hash.isNone = true
  · have hsome : ¬ s.hash.isSome = true := by simpa using hnone
    simp [hnone, hsome]
  · have hsome : s.hash.isSome = true := by simpa [Option.isSome_iff_ne_none] using hnone
    rw [if_neg hnone, and_iff_right hsome]
    by_cases hlt : x.input < s.tx.inputs.length
    · rw [if_neg (Nat.not_le.mpr hlt), and_iff_right hlt, EStateM.Result.ok.injEq, eq_comm (a := t)]
      exact and_iff_right rfl
    · simp [hlt, Nat.not_lt.mp hlt]

theorem run_forM_setSignature_eq_ok_iff :
    (xs.forM fun x => setSignature x.input x.slot x.signature).run s = .ok () t ↔
      (xs ≠ [] → s.hash.isSome = true) ∧ (∀ x ∈ xs, x.input < s.tx.inputs.length) ∧
        t = xs.foldl placed s := by
  induction xs generalizing s with
  | nil =>
    constructor
    · intro h
      exact ⟨fun h => absurd rfl h, nofun, (EStateM.Result.ok.inj h).2.symm⟩
    · rintro ⟨_, _, rfl⟩
      rfl
  | cons x xs ih =>
    change (setSignature x.input x.slot x.signature >>= fun _ =>
      xs.forM fun x => setSignature x.input x.slot x.signature).run s = .ok () t ↔ _
    rw [run_bind_eq_ok_iff, List.forall_mem_cons]
    constructor
    · rintro ⟨⟨⟩, u, hset, hmore⟩
      obtain ⟨hsome, hlt, rfl⟩ := run_setSignature_eq_ok_iff.mp hset
      obtain ⟨_, hrest, rfl⟩ := ih.mp hmore
      exact ⟨fun _ => hsome, ⟨hlt, hrest⟩, rfl⟩
    · rintro ⟨hsome, ⟨hlt, hrest⟩, rfl⟩
      have hsome := hsome (by simp)
      exact ⟨(), _, run_setSignature_eq_ok_iff.mpr ⟨hsome, hlt, rfl⟩,
        ih.mpr ⟨fun _ => hsome, hrest, rfl⟩⟩

theorem run_place (xs : List InputSignature) (s : Session) :
    (place xs).run s =
      match (xs.forM fun x => setSignature x.input x.slot x.signature).run s with
      | .ok _ staged => .ok () staged
      | .error e _ => .error (.signature e) s := by
  change (match (xs.forM fun x => setSignature x.input x.slot x.signature).run s with
    | .ok _ staged => set staged
    | .error e _ => throw (PaymentError.signature e) : SessionM PaymentError Unit).run s = _
  cases (xs.forM fun x => setSignature x.input x.slot x.signature).run s <;> rfl

theorem run_place_eq_ok_iff :
    (place xs).run s = .ok () t ↔
      (xs ≠ [] → s.hash.isSome = true) ∧ (∀ x ∈ xs, x.input < s.tx.inputs.length) ∧
        t = xs.foldl placed s := by
  rw [run_place, ← run_forM_setSignature_eq_ok_iff]
  cases (xs.forM fun x => setSignature x.input x.slot x.signature).run s <;> simp

theorem eq_of_run_place_eq_error {e : PaymentError} (h : (place xs).run s = .error e t) :
    t = s := by
  rw [run_place] at h
  split at h
  · exact absurd h (by simp)
  · exact (EStateM.Result.error.inj h).2.symm

end KernelWallet.Session
