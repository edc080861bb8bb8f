import KernelWallet.Proofs.Session

/-! What it takes that the signatures of a session are accepted: a group of them to every input, or
one signature under the sum of the keys it names. -/

namespace KernelWallet

/-- The group is not empty, and each of its signatures belongs to the key in its slot. -/
def SignerMap.IsAccepted (E : Curve) (hash : Hash) (g : SignerMap) (keys : List Key) : Prop :=
  g.entries ≠ [] ∧ ∀ e ∈ g.entries,
    ∃ key, keys[e.1.toNat]? = some key ∧ key.verifyHash E hash e.2 = true

namespace Session

variable {E : Curve} {hash : Hash} {input : Nat}

theorem verifyGroup_eq_ok_iff {keys : List Key} {entries : List (UInt16 × Signature)} :
    verifyGroup E hash input keys.toArray entries = .ok () ↔ ∀ e ∈ entries,
      ∃ key, keys[e.1.toNat]? = some key ∧ key.verifyHash E hash e.2 = true := by
  induction entries with
  | nil => exact iff_of_true rfl nofun
  | cons e entries ih =>
    rw [verifyGroup, List.forall_mem_cons, List.getElem?_toArray]
    cases keys[e.1.toNat]? with
    | none => simp
    | some key =>
      by_cases hkey : key.verifyHash E hash e.2 = true
      · simp [hkey, ih]
      · simp [hkey]

theorem verifyGroups_eq_ok_iff {groups : List SignerMap} {keys : List (List Key)} :
    verifyGroups E hash input groups keys = .ok () ↔
      ∀ p ∈ groups.zip keys, p.1.IsAccepted E hash p.2 := by
  induction groups generalizing input keys with
  | nil => exact iff_of_true rfl nofun
  | cons g groups ih =>
    cases keys with
    | nil => exact iff_of_true rfl nofun
    | cons ks keys =>
      rw [verifyGroups, guard_bind_eq_ok_iff, check_bind_eq_ok_iff, verifyGroup_eq_ok_iff, ih,
        List.zip_cons_cons, List.forall_mem_cons, SignerMap.IsAccepted, SignerMap.isEmpty,
        List.isEmpty_iff, and_assoc]

/-- With one group to an input, every group has to be accepted under the keys of its input. -/
theorem verifySignatures_eq_ok_iff {s : Session} {gs : List SignerMap} {keys : List (List Key)}
    (h : s.tx.signatures = .groups gs) :
    s.verifySignatures E keys = .ok () ↔ ∃ hash, s.hash = some hash ∧
      List.Forall₂ (SignerMap.IsAccepted E hash) gs keys ∧ gs.length = s.tx.inputs.length := by
  simp only [verifySignatures, bind_eq_ok_iff, guard_bind_eq_ok_iff, h, sealedHash_eq_ok_iff,
    verifyGroups_eq_ok_iff, not_not, List.forall₂_iff_zip]
  refine exists_congr fun hash => and_congr_right fun _ => ?_
  constructor
  · rintro ⟨hkeys, hgroups, haccepted⟩
    exact ⟨⟨hgroups.trans hkeys.symm, fun hmem => haccepted _ hmem⟩, hgroups⟩
  · rintro ⟨⟨hlen, haccepted⟩, hgroups⟩
    exact ⟨hlen.symm.trans hgroups, hgroups, fun p hmem => haccepted hmem⟩

end Session

/-! ## One signature for all -/

/-- The set of signers is not empty, each of them is the position of a key that is a point, when the
keys of all inputs are laid end to end, and the signature belongs to the sum of those points. -/
def AggregatedSignature.IsAccepted (E : Curve) (hash : Hash) (agg : AggregatedSignature)
    (keys : List (List Key)) : Prop :=
  agg.signers.toList ≠ [] ∧ ∃ points : List E.Point,
    List.Forall₂ (fun signer p =>
      ∃ key, keys.flatten[signer.toNat]? = some key ∧ key.point E = .ok p)
      agg.signers.toList points ∧
    (Key.ofPoint E (E.sum points)).verifyHash E hash agg.signature = true

/-- Every input has a group that is accepted under its keys, or one signature stands for all and is
accepted under the keys of all. -/
def Signatures.IsAccepted (E : Curve) (hash : Hash) (keys : List (List Key)) : Signatures → Prop
  | .groups gs => List.Forall₂ (SignerMap.IsAccepted E hash) gs keys
  | .aggregated agg => agg.IsAccepted E hash keys

namespace Session

variable {E : Curve} {hash : Hash}

theorem addSigners_eq_ok_iff {keys : List (List Key)} {flat : List Key} {signers : List UInt16}
    {total sum : E.Point} :
    addSigners E keys flat.toArray total signers = .ok sum ↔ ∃ points,
      List.Forall₂ (fun signer p => ∃ key, flat[signer.toNat]? = some key ∧ key.point E = .ok p)
        signers points ∧ points.foldl E.add total = sum := by
  induction signers generalizing total with
  | nil => simp [addSigners]
  | cons signer signers ih =>
    rw [addSigners, List.getElem?_toArray]
    simp only [List.forall₂_cons_left_iff]
    cases flat[signer.toNat]? with
    | none => simp
    | some key =>
      simp only [bind_eq_ok_iff, mapError_eq_ok_iff, ih, Option.some.injEq]
      constructor
      · rintro ⟨p, hp, points, hpoints, hsum⟩
        exact ⟨p :: points, ⟨p, points, ⟨key, rfl, hp⟩, hpoints, rfl⟩, hsum⟩
      · rintro ⟨_, ⟨p, points, ⟨_, rfl, hp⟩, hpoints, rfl⟩, hsum⟩
        exact ⟨p, hp, points, hpoints, hsum⟩

theorem verifyAggregated_eq_ok_iff {keys : List (List Key)} {agg : AggregatedSignature} :
    verifyAggregated E hash keys agg = .ok () ↔ agg.IsAccepted E hash keys := by
  rw [verifyAggregated, guard_bind_eq_ok_iff, bind_eq_ok_iff, AggregatedSignature.IsAccepted,
    List.isEmpty_iff]
  simp only [guard_eq_ok_iff, addSigners_eq_ok_iff, Bool.not_eq_true', Bool.not_eq_false]
  refine and_congr_right fun _ => ?_
  constructor
  · rintro ⟨_, ⟨points, hpoints, rfl⟩, hsig⟩
    exact ⟨points, hpoints, hsig⟩
  · rintro ⟨points, hpoints, hsig⟩
    exact ⟨_, ⟨points, hpoints, rfl⟩, hsig⟩

/-- With one signature for all there have to be keys for every input, under which it is accepted. -/
theorem verifySignatures_aggregated_eq_ok_iff {s : Session} {agg : AggregatedSignature}
    {keys : List (List Key)} (h : s.tx.signatures = .aggregated agg) :
    s.verifySignatures E keys = .ok () ↔ ∃ hash, s.hash = some hash ∧
      keys.length = s.tx.inputs.length ∧ agg.IsAccepted E hash keys := by
  simp only [verifySignatures, bind_eq_ok_iff, guard_bind_eq_ok_iff, h, sealedHash_eq_ok_iff,
    verifyAggregated_eq_ok_iff, not_not]

end Session

end KernelWallet
