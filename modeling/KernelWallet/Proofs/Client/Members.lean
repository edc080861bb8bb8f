import KernelWallet.Client.Safe
import KernelWallet.Proofs.Uuid

/-! The name of a set of members at the API: the digest of their texts, sorted and laid end to end.
Sorting forgets the order of the members and nothing else, and since all texts have one length they
can be told apart again without a mark between them. -/

namespace KernelWallet

theorem flatten_inj_of_length {α : Type} {n : Nat} (hn : n ≠ 0) {l l' : List (List α)}
    (h : ∀ x ∈ l, x.length = n) (h' : ∀ x ∈ l', x.length = n) (heq : l.flatten = l'.flatten) :
    l = l' := by
  induction l generalizing l' with
  | nil =>
    cases l' with
    | nil => rfl
    | cons y l' =>
      have hnil : y = [] := (List.append_eq_nil_iff.mp heq.symm).1
      exact absurd (h' y List.mem_cons_self) (by rw [hnil]; exact hn.symm)
  | cons x l ih =>
    obtain ⟨hx, hl⟩ := List.forall_mem_cons.mp h
    cases l' with
    | nil =>
      have hnil : x = [] := (List.append_eq_nil_iff.mp heq).1
      exact absurd hx (by rw [hnil]; exact hn.symm)
    | cons y l' =>
      obtain ⟨hy, hl'⟩ := List.forall_mem_cons.mp h'
      obtain ⟨rfl, hrest⟩ := List.append_inj heq (hx.trans hy.symm)
      rw [ih hl hl' hrest]

theorem mergeSort_eq_iff_perm {l l' : List String} :
    (l.mergeSort fun a b => a ≤ b) = (l'.mergeSort fun a b => a ≤ b) ↔ l.Perm l' := by
  have hperm := List.mergeSort_perm l fun a b => a ≤ b
  have hperm' := List.mergeSort_perm l' fun a b => a ≤ b
  constructor
  · intro h
    rw [h] at hperm
    exact hperm.symm.trans hperm'
  · intro h
    exact (hperm.trans (h.trans hperm'.symm)).eq_of_pairwise' (List.pairwise_mergeSort' (· ≤ ·) l)
      (List.pairwise_mergeSort' (· ≤ ·) l')

theorem Bytes.ofText_inj {s t : String} : ofText s = ofText t ↔ s = t :=
  write_inj (Option.some_injective String) toText?_ofText

/-- Two byte strings that share a digest. -/
structure Hash.Collide (b b' : Bytes) : Prop where
  ne : b ≠ b'
  sha3_eq : sha3 b = sha3 b'

namespace Safe

variable {members members' : List Uuid}

theorem toList_membersText (members : List Uuid) : (membersText members).toList =
    (((members.map Uuid.toText).mergeSort fun a b => a ≤ b).map String.toList).flatten := by
  rw [membersText, String.toList_join, List.flatMap_def]

theorem length_of_mem_sorted {x : List Char}
    (h : x ∈ ((members.map Uuid.toText).mergeSort fun a b => a ≤ b).map String.toList) :
    x.length = 36 := by
  obtain ⟨s, hs, rfl⟩ := List.mem_map.mp h
  obtain ⟨id, _, rfl⟩ := List.mem_map.mp (List.mem_mergeSort.mp hs)
  exact id.length_toText

theorem membersText_eq_iff :
    membersText members = membersText members' ↔ members.Perm members' := by
  rw [← List.map_perm_map_iff (f := Uuid.toText) fun _ _ => Uuid.toText_inj.mp,
    ← mergeSort_eq_iff_perm]
  constructor
  · intro h
    have hflat := congrArg String.toList h
    rw [toList_membersText, toList_membersText] at hflat
    have hsorted := flatten_inj_of_length (by decide) (fun _ => length_of_mem_sorted)
      (fun _ => length_of_mem_sorted) hflat
    exact (List.map_inj_right fun _ _ => String.toList_inj.mp).mp hsorted
  · intro h
    rw [membersText, membersText, h]

/-- The bytes that name a set of members are the same for the same members in any order and for no
others. So the name does not depend on the order, and where two different sets share a name, these
bytes collide. -/
theorem membersHash_eq_iff (members members' : List Uuid) :
    let named := Bytes.ofText (membersText members)
    let named' := Bytes.ofText (membersText members')
    (named = named' ↔ members.Perm members') ∧
      (membersHash members = membersHash members' ↔
        members.Perm members' ∨ Hash.Collide named named') := by
  intro named named'
  have hnamed : named = named' ↔ members.Perm members' :=
    Bytes.ofText_inj.trans membersText_eq_iff
  refine ⟨hnamed, ?_⟩
  rw [← hnamed]
  constructor
  · intro h
    by_cases heq : named = named'
    · exact .inl heq
    · exact .inr ⟨heq, h⟩
  · rintro (h | h)
    · exact congrArg Hash.sha3 h
    · exact h.sha3_eq

end Safe

end KernelWallet
