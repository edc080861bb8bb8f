import KernelWallet.Proofs.Ghost

/-! The keys of an output to many receivers. One random scalar serves them all, so that receivers
with the same keys get the same one-time key, and find the first slot that holds it. -/

namespace KernelWallet.GhostKeys

variable {E : Curve}

theorem exists_receivers (hE : E.IsLawful) {privates : List (Key × Key)}
    (h : ∀ p ∈ privates, Bytes.toNatLE p.1.toBytes < Scalar.order ∧
      Bytes.toNatLE p.2.toBytes < Scalar.order) :
    ∃ receivers : List (Key × Key),
      List.Forall₂ (fun p r => p.1.publicKey E = .ok r.1 ∧ p.2.publicKey E = .ok r.2) privates
        receivers ∧
      ∀ r ∈ receivers, r.1.isPoint E = true ∧ r.2.isPoint E = true := by
  have hpublic : ∀ k : Key, Bytes.toNatLE k.toBytes < Scalar.order →
      ∃ s, k.publicKey E = .ok (Key.ofBaseMultiple E s) := by
    intro k hk
    obtain ⟨s, rfl⟩ := Key.exists_ofScalar hk
    exact ⟨s, Key.publicKey_ofScalar s⟩
  have hpoint : ∀ {k publicKey : Key}, k.publicKey E = .ok publicKey →
      publicKey.isPoint E = true := by
    intro k publicKey hk
    obtain ⟨s, _, rfl⟩ := Key.publicKey_eq_ok_iff.mp hk
    exact Key.isPoint_ofPoint (hE.decompress_compress (E.mulBase s))
  have hreceiver : ∀ p ∈ privates, ∃ r : Key × Key,
      p.1.publicKey E = .ok r.1 ∧ p.2.publicKey E = .ok r.2 := by
    intro p hp
    obtain ⟨a, ha⟩ := hpublic p.1 (h p hp).1
    obtain ⟨b, hb⟩ := hpublic p.2 (h p hp).2
    exact ⟨(_, _), ha, hb⟩
  obtain ⟨receivers, hreceivers⟩ := exists_forall₂ hreceiver
  exact ⟨receivers, hreceivers,
    forall_mem_of_forall₂ hreceivers fun _ _ _ hr => ⟨hpoint hr.1, hpoint hr.2⟩⟩

/-- Keys are made for receivers with any canonical private keys, also for the same more than once.
Every receiver finds the first slot with the key of its own slot, and has the scalar of that key. -/
theorem exists_create_received (hE : E.IsLawful) {privates : List (Key × Key)}
    (h : ∀ p ∈ privates, Bytes.toNatLE p.1.toBytes < Scalar.order ∧
      Bytes.toNatLE p.2.toBytes < Scalar.order)
    (e : Entropy) (index version : UInt8) :
    ∃ receivers g e',
      List.Forall₂ (fun p r => p.1.publicKey E = .ok r.1 ∧ p.2.publicKey E = .ok r.2) privates
        receivers ∧
      create E e receivers index version = .ok (g, e') ∧ g.keys.length = privates.length ∧
      ∀ (j : Nat) (a b : Key), privates[j]? = some (a, b) → ∃ publicSpend own oneTime k,
        b.publicKey E = .ok publicSpend ∧ g.keys[j]? = some own ∧
        g.findOwned E a publicSpend index version = .ok (some k) ∧
        g.keys[k]? = some own ∧ (∀ n < k, g.keys[n]? ≠ some own) ∧
        Ghost.privateKey E g.mask a b index version = .ok oneTime ∧
        oneTime.publicKey E = .ok own := by
  obtain ⟨receivers, hreceivers, hpoints⟩ := exists_receivers hE h
  obtain ⟨g, e', hcreate, hlength, _⟩ :=
    exists_create hE.isSome_decompress hpoints e index version
  refine ⟨receivers, g, e', hreceivers, hcreate, hlength.trans hreceivers.length_eq.symm, ?_⟩
  intro j a b hj
  obtain ⟨⟨publicView, publicSpend⟩, hreceiver, hview, hspend⟩ :=
    exists_getElem?_of_forall₂ hreceivers hj
  obtain ⟨view, ha, rfl⟩ := Key.publicKey_eq_ok_iff.mp hview
  obtain ⟨spend, hb, rfl⟩ := Key.publicKey_eq_ok_iff.mp hspend
  obtain rfl : a = Key.ofScalar view := Key.scalar_eq_ok_iff.mp ha
  obtain rfl : b = Key.ofScalar spend := Key.scalar_eq_ok_iff.mp hb
  obtain ⟨own, hown, hprivate, k, hfound, hk, hfirst⟩ := received_of_create hE hcreate hreceiver
  exact ⟨_, _, Key.ofScalar own, k, hspend, hown, hfound, hk, hfirst, hprivate,
    Key.publicKey_ofScalar own⟩

/-- The third receiver is the first one again, and finds the key in the first slot. -/
theorem exists_create_received_again :
    Curve.ofScalars.IsLawful ∧
      (∀ p ∈ [(Key.ofScalar (-1), Key.ofScalar 5), (Key.ofScalar 3, Key.ofScalar 0),
          (Key.ofScalar (-1), Key.ofScalar 5)],
        Bytes.toNatLE p.1.toBytes < Scalar.order ∧ Bytes.toNatLE p.2.toBytes < Scalar.order) ∧
      ∃ receivers g e' publicSpend,
        create Curve.ofScalars (Entropy.cycle [1, 2, 3]) receivers 200 5 = .ok (g, e') ∧
        g.keys.length = 3 ∧ (Key.ofScalar 5).publicKey Curve.ofScalars = .ok publicSpend ∧
        g.keys[2]? = g.keys[0]? ∧
        g.findOwned Curve.ofScalars (Key.ofScalar (-1)) publicSpend 200 5 = .ok (some 0) := by
  have hE := Curve.isLawful_ofScalars
  have hscalars : ∀ p ∈ [(Key.ofScalar (-1), Key.ofScalar 5), (Key.ofScalar 3, Key.ofScalar 0),
      (Key.ofScalar (-1), Key.ofScalar 5)],
      Bytes.toNatLE p.1.toBytes < Scalar.order ∧ Bytes.toNatLE p.2.toBytes < Scalar.order := by
    simp only [List.forall_mem_cons, Key.toNatLE_ofScalar]
    exact ⟨⟨Fin.isLt _, Fin.isLt _⟩, ⟨Fin.isLt _, Fin.isLt _⟩, ⟨Fin.isLt _, Fin.isLt _⟩, nofun⟩
  obtain ⟨receivers, g, e', _, hcreate, hlength, hreceived⟩ :=
    exists_create_received hE hscalars (Entropy.cycle [1, 2, 3]) 200 5
  obtain ⟨_, own, oneTime, _, _, hown, _, _, _, hprivate, hpublic⟩ := hreceived 0 _ _ rfl
  obtain ⟨spend, own', _, k, hspend, hown', hfound, _, hfirst, hprivate', hpublic'⟩ :=
    hreceived 2 _ _ rfl
  -- Both slots hold the public key of the one scalar that the receiver derives.
  obtain rfl := Except.ok.inj (hprivate'.symm.trans hprivate)
  obtain rfl := Except.ok.inj (hpublic'.symm.trans hpublic)
  have hk : k = 0 := Nat.eq_zero_of_not_pos fun hpos => hfirst 0 hpos hown
  rw [hk] at hfound
  exact ⟨hE, hscalars, receivers, g, e', spend, hcreate, hlength, hspend, hown'.trans hown.symm,
    hfound⟩

end KernelWallet.GhostKeys
