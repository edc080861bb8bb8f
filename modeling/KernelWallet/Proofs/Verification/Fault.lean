import KernelWallet.Proofs.Key
import KernelWallet.Proofs.SignerMap
import KernelWallet.Proofs.Verification

/-! What can be wrong with the signatures of a session that has a group to every input, and which of
several faults is reported: the one at the least place, in the order of inputs and then of
signers. -/

namespace KernelWallet

/-- Of what is wrong, each thing at its place, the error tells of what stands at the least place. -/
def SignatureError.IsFirst (fault : Nat ×ₗ Nat → SignatureError → Prop) (e : SignatureError) :
    Prop :=
  ∃ place, fault place e ∧ ∀ place' e', fault place' e' → place ≤ place'

namespace SignerMap

/-- An entry that does not belong to the key in its slot, and the error that tells of it. -/
inductive Rejects (E : Curve) (hash : Hash) (input : Nat) (keys : List Key) :
    UInt16 × Signature → SignatureError → Prop where
  | outOfRange {signer : UInt16} {sig : Signature} (h : keys[signer.toNat]? = none) :
      Rejects E hash input keys (signer, sig) (.signerOutOfRange input signer)
  | invalid {signer : UInt16} {sig : Signature} {key : Key} (h : keys[signer.toNat]? = some key)
      (hsig : key.verifyHash E hash sig = false) :
      Rejects E hash input keys (signer, sig) (.invalidSignature input signer)

/-- What is wrong with the group of an input, by its place and the error that tells of it. The place
is the input with the signer; an empty group is a fault of its input as a whole. -/
inductive Fault (E : Curve) (hash : Hash) (input : Nat) (keys : List Key) (g : SignerMap) :
    Nat ×ₗ Nat → SignatureError → Prop where
  | missing (h : g.entries = []) :
      Fault E hash input keys g (toLex (input, 0)) (.missingSignatures input)
  | entry {x : UInt16 × Signature} {e : SignatureError} (hx : x ∈ g.entries)
      (h : Rejects E hash input keys x e) :
      Fault E hash input keys g (toLex (input, x.1.toNat)) e

variable {E : Curve} {hash : Hash} {input : Nat} {keys : List Key}

theorem exists_rejects_iff {x : UInt16 × Signature} :
    (∃ e, Rejects E hash input keys x e) ↔
      ¬ ∃ key, keys[x.1.toNat]? = some key ∧ key.verifyHash E hash x.2 = true := by
  constructor
  · rintro ⟨e, h | ⟨h, hsig⟩⟩ ⟨key, hkey, hverify⟩
    · exact absurd (h.symm.trans hkey) (by simp)
    · obtain rfl := Option.some.inj (h.symm.trans hkey)
      exact absurd (hsig.symm.trans hverify) (by simp)
  · intro h
    cases hkey : keys[x.1.toNat]? with
    | none => exact ⟨_, .outOfRange hkey⟩
    | some key =>
      refine ⟨_, .invalid hkey (Bool.eq_false_iff.mpr fun hsig => h ⟨key, hkey, hsig⟩)⟩

theorem Rejects.unique {x : UInt16 × Signature} {e e' : SignatureError}
    (h : Rejects E hash input keys x e) (h' : Rejects E hash input keys x e') : e = e' := by
  cases h with
  | outOfRange hkey =>
    cases h' with
    | outOfRange => rfl
    | invalid hkey' => exact absurd (hkey.symm.trans hkey') (by simp)
  | invalid hkey =>
    cases h' with
    | outOfRange hkey' => exact absurd (hkey'.symm.trans hkey) (by simp)
    | invalid => rfl

variable {g : SignerMap} {place place' : Nat ×ₗ Nat} {e e' : SignatureError}

theorem Fault.input_eq (h : g.Fault E hash input keys place e) : (ofLex place).1 = input := by
  cases h <;> rfl

theorem isFirst_missing (h : g.entries = []) :
    (SignatureError.missingSignatures input).IsFirst (g.Fault E hash input keys) :=
  ⟨_, .missing h, fun _ _ hfault =>
    Prod.Lex.le_iff.mpr (.inr ⟨hfault.input_eq.symm, Nat.zero_le _⟩)⟩

theorem isAccepted_iff_forall_not_fault :
    g.IsAccepted E hash keys ↔ ∀ place e, ¬ g.Fault E hash input keys place e := by
  constructor
  · rintro ⟨hne, hentries⟩ place e (hempty | ⟨hx, hrejects⟩)
    · exact hne hempty
    · exact exists_rejects_iff.mp ⟨e, hrejects⟩ (hentries _ hx)
  · intro h
    refine ⟨fun hempty => h _ _ (.missing hempty), fun x hx => ?_⟩
    by_contra hnot
    obtain ⟨e, he⟩ := exists_rejects_iff.mpr hnot
    exact h _ e (.entry hx he)

theorem Fault.unique (h : g.Fault E hash input keys place e)
    (h' : g.Fault E hash input keys place e') : e = e' := by
  generalize hplace : place = place' at h'
  cases h with
  | missing hempty =>
    cases h' with
    | missing => rfl
    | entry hx => simp [hempty] at hx
  | @entry x _ hx hrejects =>
    cases h' with
    | missing hempty => simp [hempty] at hx
    | @entry x' _ hx' hrejects' =>
      have hsigner : x.1 = x'.1 :=
        UInt16.toNat_inj.mp (congrArg (fun p => (ofLex p).2) hplace)
      -- a group has one entry for each signer
      have heq : x = x' := by
        have hx₁ := get?_eq_some_iff.mpr hx
        have hx₂ := get?_eq_some_iff.mpr hx'
        rw [hsigner, hx₂] at hx₁
        exact Prod.ext hsigner (Option.some.inj hx₁).symm
      subst heq
      exact hrejects.unique hrejects'

end SignerMap

namespace Session

variable {E : Curve} {hash : Hash} {first : Nat} {groups : List SignerMap} {keys : List (List Key)}
  {place place' : Nat ×ₗ Nat} {e e' : SignatureError}

/-- What is wrong with the groups of the inputs from `first` on. -/
def Fault (E : Curve) (hash : Hash) (first : Nat) (groups : List SignerMap)
    (keys : List (List Key)) (place : Nat ×ₗ Nat) (e : SignatureError) : Prop :=
  ∃ (n : Nat) (g : SignerMap) (ks : List Key), groups[n]? = some g ∧ keys[n]? = some ks ∧
    g.Fault E hash (first + n) ks place e

theorem not_fault_nil : ¬ Fault E hash first [] keys place e := by
  rintro ⟨n, g, ks, hg, _⟩
  exact absurd hg (by simp)

theorem fault_cons_iff {g : SignerMap} {ks : List Key} :
    Fault E hash first (g :: groups) (ks :: keys) place e ↔
      g.Fault E hash first ks place e ∨ Fault E hash (first + 1) groups keys place e := by
  constructor
  · rintro ⟨_ | n, g', ks', hg, hks, hfault⟩
    · obtain rfl := Option.some.inj hg
      obtain rfl := Option.some.inj hks
      exact .inl hfault
    · have hinput : first + (n + 1) = first + 1 + n := by omega
      rw [hinput] at hfault
      exact .inr ⟨n, g', ks', hg, hks, hfault⟩
  · rintro (hfault | ⟨n, g', ks', hg, hks, hfault⟩)
    · exact ⟨0, g, ks, rfl, rfl, hfault⟩
    · have hinput : first + 1 + n = first + (n + 1) := by omega
      rw [hinput] at hfault
      exact ⟨n + 1, g', ks', hg, hks, hfault⟩

theorem Fault.le (h : Fault E hash first groups keys place e) : first ≤ (ofLex place).1 := by
  obtain ⟨n, g, ks, _, _, hfault⟩ := h
  rw [hfault.input_eq]
  exact Nat.le_add_right first n

theorem Fault.unique (h : Fault E hash first groups keys place e)
    (h' : Fault E hash first groups keys place e') : e = e' := by
  obtain ⟨n, g, ks, hg, hks, hfault⟩ := h
  obtain ⟨n', g', ks', hg', hks', hfault'⟩ := h'
  obtain rfl : n = n' := Nat.add_left_cancel (hfault.input_eq.symm.trans hfault'.input_eq)
  obtain rfl := Option.some.inj (hg.symm.trans hg')
  obtain rfl := Option.some.inj (hks.symm.trans hks')
  exact hfault.unique hfault'

theorem not_fault_of_verifyGroups (h : verifyGroups E hash first groups keys = .ok ()) :
    ¬ Fault E hash first groups keys place e := by
  rintro ⟨n, g, ks, hg, hks, hfault⟩
  have hget : (groups.zip keys)[n]? = some (g, ks) := List.getElem?_zip_eq_some.mpr ⟨hg, hks⟩
  have haccepted := verifyGroups_eq_ok_iff.mp h (g, ks) (List.mem_of_getElem? hget)
  exact SignerMap.isAccepted_iff_forall_not_fault.mp haccepted place e hfault

/-- The entries are checked in their order up to the first that is rejected. -/
theorem exists_rejects_of_verifyGroup {ks : List Key} {entries : List (UInt16 × Signature)}
    (h : verifyGroup E hash first ks.toArray entries = .error e) :
    ∃ before x after, entries = before ++ x :: after ∧
      (∀ y ∈ before, ∀ e, ¬ SignerMap.Rejects E hash first ks y e) ∧
      SignerMap.Rejects E hash first ks x e := by
  induction entries with
  | nil => exact absurd h (by simp [verifyGroup])
  | cons x entries ih =>
    rw [verifyGroup, List.getElem?_toArray] at h
    cases hkey : ks[x.1.toNat]? with
    | none =>
      rw [hkey] at h
      obtain rfl := Except.error.inj h
      exact ⟨[], x, entries, rfl, by simp, .outOfRange hkey⟩
    | some key =>
      simp only [hkey] at h
      by_cases hsig : key.verifyHash E hash x.2 = true
      · rw [if_pos hsig] at h
        obtain ⟨before, y, after, rfl, hbefore, hy⟩ := ih h
        refine ⟨x :: before, y, after, rfl, ?_, hy⟩
        rw [List.forall_mem_cons]
        exact ⟨fun e he => SignerMap.exists_rejects_iff.mp ⟨e, he⟩ ⟨key, hkey, hsig⟩, hbefore⟩
      · rw [if_neg hsig] at h
        obtain rfl := Except.error.inj h
        exact ⟨[], x, entries, rfl, by simp, .invalid hkey (Bool.eq_false_iff.mpr hsig)⟩

theorem isFirst_of_verifyGroup {g : SignerMap} {ks : List Key}
    (h : verifyGroup E hash first ks.toArray g.entries = .error e) :
    e.IsFirst (g.Fault E hash first ks) := by
  obtain ⟨before, x, after, hentries, hbefore, hx⟩ := exists_rejects_of_verifyGroup h
  have hmem : x ∈ g.entries := by simp [hentries]
  refine ⟨_, .entry hmem hx, ?_⟩
  intro place' e' hfault
  cases hfault with
  | missing hempty => exact absurd hmem (by simp [hempty])
  | @entry y _ hy hrejects =>
    have hascending := g.ascending
    rw [hentries, List.pairwise_append, List.pairwise_cons] at hascending
    rw [hentries, List.mem_append, List.mem_cons] at hy
    -- the entries before `x` pass, and those behind it have greater signers
    rcases hy with hy | rfl | hy
    · exact absurd hrejects (hbefore y hy _)
    · exact le_refl _
    · have hlt := UInt16.lt_iff_toNat_lt.mp (hascending.2.1.1 y hy)
      exact Prod.Lex.toLex_le_toLex.mpr (.inr ⟨rfl, hlt.le⟩)

theorem isFirst_cons {g : SignerMap} {ks : List Key} (h : e.IsFirst (g.Fault E hash first ks)) :
    e.IsFirst (Fault E hash first (g :: groups) (ks :: keys)) := by
  obtain ⟨place, hfault, hleast⟩ := h
  refine ⟨place, fault_cons_iff.mpr (.inl hfault), fun place' e' hfault' => ?_⟩
  rcases fault_cons_iff.mp hfault' with hfault' | hfault'
  · exact hleast place' e' hfault'
  · -- a fault of a later input stands behind every fault of this one
    have hlt : (ofLex place).1 < (ofLex place').1 := by
      rw [hfault.input_eq]
      exact hfault'.le
    exact Prod.Lex.le_iff.mpr (.inl hlt)

theorem isFirst_cons_of_isAccepted {g : SignerMap} {ks : List Key} (hg : g.IsAccepted E hash ks)
    (h : e.IsFirst (Fault E hash (first + 1) groups keys)) :
    e.IsFirst (Fault E hash first (g :: groups) (ks :: keys)) := by
  obtain ⟨place, hfault, hleast⟩ := h
  refine ⟨place, fault_cons_iff.mpr (.inr hfault), fun place' e' hfault' => ?_⟩
  rcases fault_cons_iff.mp hfault' with hfault' | hfault'
  · exact absurd hfault' (SignerMap.isAccepted_iff_forall_not_fault.mp hg place' e')
  · exact hleast place' e' hfault'

/-- The groups are checked in the order of their inputs, and each of them is without faults before
the next is looked at. -/
theorem isFirst_of_verifyGroups (h : verifyGroups E hash first groups keys = .error e) :
    e.IsFirst (Fault E hash first groups keys) := by
  induction groups generalizing first keys with
  | nil => exact absurd h (by simp [verifyGroups])
  | cons g groups ih =>
    cases keys with
    | nil => exact absurd h (by simp [verifyGroups])
    | cons ks keys =>
      rw [verifyGroups] at h
      by_cases hempty : g.isEmpty = true
      · rw [if_pos hempty] at h
        obtain rfl := Except.error.inj h
        exact isFirst_cons (SignerMap.isFirst_missing (List.isEmpty_iff.mp hempty))
      · rw [if_neg hempty] at h
        cases hgroup : verifyGroup E hash first ks.toArray g.entries with
        | error e' =>
          rw [hgroup] at h
          obtain rfl := Except.error.inj h
          exact isFirst_cons (isFirst_of_verifyGroup hgroup)
        | ok u =>
          rw [hgroup] at h
          have haccepted : g.IsAccepted E hash ks :=
            ⟨mt List.isEmpty_iff.mpr hempty, verifyGroup_eq_ok_iff.mp hgroup⟩
          exact isFirst_cons_of_isAccepted haccepted (ih h)

theorem verifyGroups_eq_error_iff :
    verifyGroups E hash first groups keys = .error e ↔
      e.IsFirst (Fault E hash first groups keys) := by
  refine ⟨isFirst_of_verifyGroups, ?_⟩
  rintro ⟨place, hfault, hleast⟩
  cases hresult : verifyGroups E hash first groups keys with
  | ok u => exact absurd hfault (not_fault_of_verifyGroups hresult)
  | error e' =>
    obtain ⟨place', hfault', hleast'⟩ := isFirst_of_verifyGroups hresult
    obtain rfl : place = place' := le_antisymm (hleast _ _ hfault') (hleast' _ _ hfault)
    rw [hfault.unique hfault']

/-- Signatures are accepted exactly if there are keys for each input and either every input has a
group that is accepted under them or the one signature for all is. If there is a group to every
input, the error is the one at the first place, in the order of inputs and then of signers, where
something is wrong. Without a hash there is nothing to check against. -/
theorem verifySignatures_eq_iff (s : Session) (keys : List (List Key)) :
    (s.hash = none → s.verifySignatures E keys = .error .notSealed) ∧
      ∀ hash, s.hash = some hash →
        (s.verifySignatures E keys = .ok () ↔
          keys.length = s.tx.inputs.length ∧ s.tx.signatures.IsAccepted E hash keys) ∧
        ∀ gs, s.tx.signatures = .groups gs → keys.length = s.tx.inputs.length →
          gs.length = s.tx.inputs.length → ∀ e,
          (s.verifySignatures E keys = .error e ↔ e.IsFirst (Fault E hash 0 gs keys)) := by
  refine ⟨fun hnone => ?_, fun hash hhash => ⟨?_, fun gs hgs hkeys hgroups e => ?_⟩⟩
  · rw [verifySignatures, sealedHash, hnone]
    rfl
  · cases hsigs : s.tx.signatures with
    | groups gs =>
      rw [verifySignatures_eq_ok_iff hsigs, Signatures.IsAccepted]
      constructor
      · rintro ⟨hash', hhash', haccepted, hlen⟩
        obtain rfl := Option.some.inj (hhash.symm.trans hhash')
        exact ⟨haccepted.length_eq.symm.trans hlen, haccepted⟩
      · rintro ⟨hlen, haccepted⟩
        exact ⟨hash, hhash, haccepted, haccepted.length_eq.trans hlen⟩
    | aggregated agg =>
      simp only [verifySignatures, bind_eq_ok_iff, guard_bind_eq_ok_iff, hsigs,
        sealedHash_eq_ok_iff, verifyAggregated_eq_ok_iff, not_not, hhash, Option.some.injEq,
        exists_eq_left', Signatures.IsAccepted]
  · have hverify : s.verifySignatures E keys = verifyGroups E hash 0 gs keys := by
      simp only [verifySignatures, sealedHash, hhash, hgs, hkeys, hgroups, ne_eq,
        not_true_eq_false, if_false]
      rfl
    rw [hverify, verifyGroups_eq_error_iff]

/-- A session that spends two outputs, with its hash cached. -/
def twoInputs (signatures : Signatures) : Session where
  tx := {
    version := 5
    asset := Hash.zero
    inputs := [Input.ofOutput Hash.zero 0, Input.ofOutput Hash.zero 1]
    signatures }
  state := .built
  hash := some Hash.zero

/-- Of three keys the second signs for the first input and the third for the second; a signer that
the second input does not have is reported; the first and the third stand for all; and a draft has
nothing to check against. -/
theorem verifySignatures_eq_iff_twoInputs :
    let key (s : Scalar) := Key.ofBaseMultiple Curve.ofScalars s
    let keys := [[key 5, key 6], [key 7]]
    ∃ sig₀ sig₁ sig,
      (twoInputs (.groups [.single 1 sig₀, .single 0 sig₁])).verifySignatures Curve.ofScalars keys =
        .ok () ∧
      (twoInputs (.groups [.single 1 sig₀, .single 3 sig₁])).verifySignatures Curve.ofScalars keys =
        .error (.signerOutOfRange 1 3) ∧
      (twoInputs (.aggregated ⟨sig, ⟨[0, 2], by decide⟩⟩)).verifySignatures Curve.ofScalars keys =
        .ok () ∧
      (draft (twoInputs .none).tx).verifySignatures Curve.ofScalars keys = .error .notSealed := by
  intro key keys
  have hsigned : ∀ s : Scalar, ∃ sig, (key s).verifyHash Curve.ofScalars Hash.zero sig = true := by
    intro s
    obtain ⟨sig, _, hsig⟩ :=
      Key.exists_sign_verify Curve.isLawful_ofScalars (Key.scalar_ofScalar s) Hash.zero.toBytes
    exact ⟨sig, hsig⟩
  obtain ⟨sig₀, h₀⟩ := hsigned 6
  obtain ⟨sig₁, h₁⟩ := hsigned 7
  obtain ⟨sig, hsig⟩ := hsigned 12
  have hfirst : (SignerMap.single 1 sig₀).IsAccepted Curve.ofScalars Hash.zero [key 5, key 6] :=
    ⟨List.cons_ne_nil _ _, List.forall_mem_singleton.mpr ⟨key 6, rfl, h₀⟩⟩
  refine ⟨sig₀, sig₁, sig, ?_, ?_, ?_, (verifySignatures_eq_iff (draft _) keys).1 rfl⟩
  · have hsecond : (SignerMap.single 0 sig₁).IsAccepted Curve.ofScalars Hash.zero [key 7] :=
      ⟨List.cons_ne_nil _ _, List.forall_mem_singleton.mpr ⟨key 7, rfl, h₁⟩⟩
    exact ((verifySignatures_eq_iff (twoInputs _) keys).2 _ rfl).1.mpr
      ⟨rfl, .cons hfirst (.cons hsecond .nil)⟩
  · have hrejects : SignerMap.Rejects Curve.ofScalars Hash.zero 1 [key 7] (3, sig₁)
        (.signerOutOfRange 1 3) := .outOfRange rfl
    refine (((verifySignatures_eq_iff (twoInputs _) keys).2 _ rfl).2 _ rfl rfl rfl _).mpr
      ⟨_, ⟨1, _, _, rfl, rfl, .entry (.head _) hrejects⟩, ?_⟩
    intro place e hfault
    rcases fault_cons_iff.mp hfault with hfault | hfault
    · exact absurd hfault (SignerMap.isAccepted_iff_forall_not_fault.mp hfirst place e)
    · have hfault := (fault_cons_iff.mp hfault).resolve_right not_fault_nil
      cases hfault with
      | missing hempty => exact absurd hempty (List.cons_ne_nil _ _)
      | entry hmem =>
        obtain rfl := List.mem_singleton.mp hmem
        exact le_refl _
  · have hpoint : ∀ s, (key s).point Curve.ofScalars = .ok (Curve.ofScalars.mulBase s) := fun s =>
      Key.point_ofPoint (Curve.decompress_compress_ofScalars _)
    refine ((verifySignatures_eq_iff (twoInputs _) keys).2 _ rfl).1.mpr
      ⟨rfl, List.cons_ne_nil _ _, [Curve.ofScalars.mulBase 5, Curve.ofScalars.mulBase 7], ?_, hsig⟩
    exact .cons ⟨key 5, rfl, hpoint 5⟩ (.cons ⟨key 7, rfl, hpoint 7⟩ .nil)

end Session

end KernelWallet
