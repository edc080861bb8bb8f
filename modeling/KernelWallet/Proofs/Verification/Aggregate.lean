import KernelWallet.Proofs.Key
import KernelWallet.Proofs.Signers
import KernelWallet.Proofs.Verification.Fault

/-! One signature for many keys. The sum of public keys is the public key of the sum of their
scalars, so that a signature made with this sum is accepted in the place of all of them. -/

namespace KernelWallet

namespace Scalar

theorem reduce_add (m n : Nat) : reduce (m + n) = reduce m + reduce n :=
  Fin.ext (Nat.add_mod m n order)

theorem reduce_val (s : Scalar) : reduce s.val = s :=
  Fin.ext (Nat.mod_eq_of_lt s.isLt)

end Scalar

variable {E : Curve}

section

variable (hE : E.IsLawful)

include hE

theorem Curve.IsLawful.foldl_add_mulBase (l : List Nat) (n : Nat) :
    (l.map fun m => E.mulBase (Scalar.reduce m)).foldl E.add (E.mulBase (Scalar.reduce n)) =
      E.mulBase (Scalar.reduce (n + l.sum)) := by
  induction l generalizing n with
  | nil => rfl
  | cons m l ih =>
    rw [List.map_cons, List.foldl_cons, ← hE.add_mulBase, ← Scalar.reduce_add, ih, List.sum_cons,
      Nat.add_assoc]

theorem Curve.IsLawful.sum_mulBase (l : List Nat) :
    E.sum (l.map fun n => E.mulBase (Scalar.reduce n)) = E.mulBase (Scalar.reduce l.sum) := by
  have hzero : E.mulBase (Scalar.reduce 0) = E.zero := hE.mulBase_zero
  rw [Curve.sum, ← hzero, hE.foldl_add_mulBase, Nat.zero_add]

end

theorem Key.ofBaseMultiple_of_publicKey {a A : Key} (h : a.publicKey E = .ok A) :
    A = ofBaseMultiple E (Scalar.reduce (Bytes.toNatLE a.toBytes)) := by
  obtain ⟨s, hs, rfl⟩ := publicKey_eq_ok_iff.mp h
  obtain rfl := scalar_eq_ok_iff.mp hs
  rw [toNatLE_ofScalar, Scalar.reduce_val]

namespace SignerSet

/-- Every position is counted once, in whatever order and however often it is listed. -/
theorem sum_toList_ofList {listed : List UInt16} {S : Finset Nat} (hS : ∀ n ∈ S, n < 2 ^ 16)
    (h : ∀ m : UInt16, m ∈ listed ↔ m.toNat ∈ S) (f : Nat → Nat) :
    (((ofList listed).toList.map UInt16.toNat).map f).sum = ∑ n ∈ S, f n := by
  have hnodup : ((ofList listed).toList.map UInt16.toNat).Nodup := by
    rw [List.Nodup, List.pairwise_map]
    exact (ofList listed).ascending.imp fun hlt heq => UInt16.ne_of_lt hlt (UInt16.toNat_inj.mp heq)
  have hmembers : ((ofList listed).toList.map UInt16.toNat).toFinset = S := by
    ext n
    simp only [List.mem_toFinset, List.mem_map, mem_toList_ofList, h]
    constructor
    · rintro ⟨m, hm, rfl⟩
      exact hm
    · intro hn
      have hnat : (UInt16.ofNat n).toNat = n := UInt16.toNat_ofNat_of_lt' (hS n hn)
      exact ⟨UInt16.ofNat n, hnat.symm ▸ hn, hnat⟩
  rw [← List.sum_toFinset f hnodup, hmembers]

end SignerSet

namespace Key

/-- The number of the private key at a position, when those of all inputs are laid end to end. -/
def valueAt (privates : List (List Key)) (n : Nat) : Nat :=
  Bytes.toNatLE (privates.flatten.getD n zero).toBytes

/-- The private key whose scalar is the sum of those at some positions. -/
def combined (privates : List (List Key)) (positions : Finset Nat) : Key :=
  ofScalar (Scalar.reduce (∑ n ∈ positions, valueAt privates n))

theorem exists_point_flatten (hE : E.IsLawful) {privates keys : List (List Key)}
    (hkeys : List.Forall₂ (List.Forall₂ fun a A => a.publicKey E = .ok A) privates keys) {n : Nat}
    (hn : n < keys.flatten.length) :
    ∃ key, keys.flatten[n]? = some key ∧
      key.point E = .ok (E.mulBase (Scalar.reduce (valueAt privates n))) := by
  have hkey := List.getElem?_eq_getElem hn
  obtain ⟨a, ha, hpublic⟩ := exists_getElem?_of_forall₂ (List.rel_flatten hkeys).flip hkey
  refine ⟨_, hkey, ?_⟩
  rw [valueAt, List.getD_eq_getElem?_getD, ha, Option.getD_some,
    ofBaseMultiple_of_publicKey hpublic]
  exact point_ofPoint (hE.decompress_compress _)

end Key

theorem AggregatedSignature.isAccepted_combined (hE : E.IsLawful) {hash : Hash}
    {privates keys : List (List Key)}
    (hkeys : List.Forall₂ (List.Forall₂ fun a A => a.publicKey E = .ok A) privates keys)
    {positions : Finset Nat} (hne : positions.Nonempty)
    (hpositions : ∀ n ∈ positions, n < 2 ^ 16 ∧ n < keys.flatten.length) {listed : List UInt16}
    (hlisted : ∀ m : UInt16, m ∈ listed ↔ m.toNat ∈ positions) {sig : Signature}
    (hsig : (Key.combined privates positions).signHash E hash = .ok sig) :
    AggregatedSignature.IsAccepted E hash ⟨sig, SignerSet.ofList listed⟩ keys := by
  have hnat : ∀ n ∈ positions, (UInt16.ofNat n).toNat = n := fun n hn =>
    UInt16.toNat_ofNat_of_lt' (hpositions n hn).1
  constructor
  · obtain ⟨n, hn⟩ := hne
    have hmem : UInt16.ofNat n ∈ listed := (hlisted _).mpr (by rwa [hnat n hn])
    exact List.ne_nil_of_mem (SignerSet.mem_toList_ofList.mpr hmem)
  · let values := ((SignerSet.ofList listed).toList.map UInt16.toNat).map (Key.valueAt privates)
    refine ⟨values.map fun v => E.mulBase (Scalar.reduce v), ?_, ?_⟩
    · simp only [values, List.map_map, List.forall₂_map_right_iff, List.forall₂_same]
      intro m hm
      have hmem := (hlisted m).mp (SignerSet.mem_toList_ofList.mp hm)
      exact Key.exists_point_flatten hE hkeys (hpositions _ hmem).2
    · rw [hE.sum_mulBase, SignerSet.sum_toList_ofList (fun n hn => (hpositions n hn).1) hlisted]
      exact Key.verify_sign hE (Key.scalar_ofScalar _) hsig

namespace Session

/-- What the sum of private keys signs is accepted in the place of all their signatures. Their
positions may come in any order and more than once, and cross from one input to the next. -/
theorem verifySignatures_setAggregated (hE : E.IsLawful) {s : Session} {hash : Hash}
    (hhash : s.hash = some hash) {privates keys : List (List Key)}
    (hkeys : List.Forall₂ (List.Forall₂ fun a A => a.publicKey E = .ok A) privates keys)
    (hinputs : keys.length = s.tx.inputs.length) {positions : Finset Nat}
    (hne : positions.Nonempty)
    (hpositions : ∀ n ∈ positions, n < 2 ^ 16 ∧ n < keys.flatten.length) {listed : List UInt16}
    (hlisted : ∀ m : UInt16, m ∈ listed ↔ m.toNat ∈ positions) :
    ∃ sig s', (Key.combined privates positions).signHash E hash = .ok sig ∧
      (setAggregated ⟨sig, SignerSet.ofList listed⟩).run s = .ok () s' ∧
      s'.verifySignatures E keys = .ok () := by
  obtain ⟨_, hsign⟩ := Key.exists_sign (E := E) (Key.scalar_ofScalar _) hash.toBytes
  have hrun : ∀ agg, (setAggregated agg).run s = .ok () (s.withSignatures (.aggregated agg)) := by
    intro agg
    rw [run_setAggregated, hhash]
    rfl
  refine ⟨_, _, hsign, hrun _, (verifySignatures_aggregated_eq_ok_iff rfl).mpr
    ⟨hash, hhash, hinputs, ?_⟩⟩
  exact AggregatedSignature.isAccepted_combined hE hkeys hne hpositions hlisted hsign

/-- The second key of the first input and the key of the second input, whose scalars add up past
the order, with one of the positions listed twice. -/
theorem verifySignatures_setAggregated_acrossInputs :
    let key (s : Scalar) := Key.ofBaseMultiple Curve.ofScalars s
    let privates := [[Key.ofScalar 5, Key.ofScalar (-1)], [Key.ofScalar 7]]
    let keys := [[key 5, key (-1)], [key 7]]
    Curve.ofScalars.IsLawful ∧ (twoInputs .none).hash = some Hash.zero ∧
      List.Forall₂ (List.Forall₂ fun a A => a.publicKey Curve.ofScalars = .ok A) privates keys ∧
      keys.length = (twoInputs .none).tx.inputs.length ∧ ({1, 2} : Finset Nat).Nonempty ∧
      (∀ n ∈ ({1, 2} : Finset Nat), n < 2 ^ 16 ∧ n < keys.flatten.length) ∧
      (∀ m : UInt16, m ∈ [2, 1, 2] ↔ m.toNat ∈ ({1, 2} : Finset Nat)) ∧
      ∃ sig s', (Key.combined privates {1, 2}).signHash Curve.ofScalars Hash.zero = .ok sig ∧
        (setAggregated ⟨sig, SignerSet.ofList [2, 1, 2]⟩).run (twoInputs .none) = .ok () s' ∧
        s'.verifySignatures Curve.ofScalars keys = .ok () := by
  intro key privates keys
  have hpublic : ∀ s : Scalar, (Key.ofScalar s).publicKey Curve.ofScalars = .ok (key s) :=
    Key.publicKey_ofScalar
  have hkeys : List.Forall₂ (List.Forall₂ fun a A => a.publicKey Curve.ofScalars = .ok A) privates
      keys :=
    .cons (.cons (hpublic 5) (.cons (hpublic (-1)) .nil)) (.cons (.cons (hpublic 7) .nil) .nil)
  have hpositions : ∀ n ∈ ({1, 2} : Finset Nat), n < 2 ^ 16 ∧ n < keys.flatten.length := by
    intro n hn
    have hlength : keys.flatten.length = 3 := rfl
    simp only [Finset.mem_insert, Finset.mem_singleton] at hn
    omega
  have hlisted : ∀ m : UInt16, m ∈ [2, 1, 2] ↔ m.toNat ∈ ({1, 2} : Finset Nat) := by
    intro m
    simp only [List.mem_cons, List.not_mem_nil, or_false, Finset.mem_insert, Finset.mem_singleton,
      ← UInt16.toNat_inj]
    have hone : (1 : UInt16).toNat = 1 := rfl
    have htwo : (2 : UInt16).toNat = 2 := rfl
    omega
  exact ⟨Curve.isLawful_ofScalars, rfl, hkeys, rfl, ⟨1, by decide⟩, hpositions, hlisted,
    verifySignatures_setAggregated Curve.isLawful_ofScalars rfl hkeys rfl ⟨1, by decide⟩ hpositions
      hlisted⟩

end Session

end KernelWallet
