import KernelWallet.Proofs.Payment.Buildable

/-! An output to XIN members reaches every member whose public spend key has a private key. Sender
and receiver count the output by the same position, and the receiver derives from its spend key the
view key that the sender used. -/

namespace KernelWallet

variable {E : Curve}

namespace Blueprint

/-- The keys of an output to members are made for the position that it has among all outputs,
whatever the outputs before it are. -/
theorem exists_create_of_outputsFrom {version : UInt8} {expected : Nat}
    {fetched : List GhostKeys} {e : Entropy} {position : Nat} {planned : List PlannedOutput}
    {made : List Output}
    (h : outputsFrom E version expected fetched e position planned = .ok made) {n : Nat}
    {out : PlannedOutput} (hout : planned[n]? = some out) {members : List Address}
    (hmembers : out.address.addresses? = some members) :
    ∃ o before after, made[n]? = some o ∧
      GhostKeys.create E before (members.map (receiver E)) (UInt8.ofNat (position + n)) version =
        .ok (⟨o.mask, o.keys⟩, after) := by
  induction planned generalizing fetched e position made n with
  | nil => simp at hout
  | cons first planned ih =>
    obtain ⟨g, fetched', e', rest, hkeys, _, hrest, rfl⟩ := outputsFrom_cons_eq_ok_iff.mp h
    cases n with
    | zero =>
      obtain rfl : first = out := by simpa using hout
      rw [MixAddress.addresses?_eq_some_iff.mp hmembers, outputKeys, bind_eq_ok_iff] at hkeys
      obtain ⟨⟨g', after⟩, hderive, heq⟩ := hkeys
      obtain ⟨rfl, _⟩ := Prod.mk.inj (Except.ok.inj heq)
      exact ⟨_, e, after, rfl, deriveKeys_eq_ok_iff.mp hderive⟩
    | succ n =>
      have hposition : position + (n + 1) = position + 1 + n := by omega
      rw [hposition]
      exact ih hrest (by simpa using hout)

/-- The member in a slot of an output derives the scalar of the key in this slot, and finds the
first slot that holds this key. -/
theorem receives_of_build (hE : E.IsLawful) {b : Blueprint} {fetched : List GhostKeys}
    {e : Entropy} {s : Session} (h : b.build E fetched e = .ok s) {p j : Nat} {out : PlannedOutput}
    (hout : b.outputs[p]? = some out) {members : List Address}
    (hmembers : out.address.addresses? = some members) {m : Address} (hm : members[j]? = some m)
    {privateSpend : Key} (hspend : privateSpend.publicKey E = .ok m.publicSpend) :
    ∃ o account oneTime publicKey k, p < 256 ∧ s.tx.outputs[p]? = some o ∧
      Account.ofPrivateSpend E privateSpend = .ok account ∧
      Ghost.privateKey E o.mask account.privateView account.privateSpend (UInt8.ofNat p)
        b.version = .ok oneTime ∧
      oneTime.publicKey E = .ok publicKey ∧ o.keys[j]? = some publicKey ∧
      GhostKeys.findOwned E ⟨o.mask, o.keys⟩ account.privateView m.publicSpend (UInt8.ofNat p)
        b.version = .ok (some k) ∧
      o.keys[k]? = some publicKey ∧ ∀ n < k, o.keys[n]? ≠ some publicKey := by
  obtain ⟨_, outputs, hash, houtputs, hvalid, _, rfl⟩ := build_eq_ok_iff.mp h
  obtain ⟨o, before, after, ho, hcreate⟩ := exists_create_of_outputsFrom houtputs hout hmembers
  rw [Nat.zero_add] at hcreate
  have hcount : outputs.length ≤ 256 := (Transaction.validate_eq_ok_iff.mp hvalid).outputs_le
  have hp : p < outputs.length := (List.getElem?_eq_some_iff.mp ho).1
  obtain ⟨spend, hscalar, hpublic⟩ := Key.publicKey_eq_ok_iff.mp hspend
  have hreceiver : (members.map (receiver E))[j]? =
      some (Key.ofBaseMultiple E (Key.viewScalar (Key.ofBaseMultiple E spend)),
        Key.ofBaseMultiple E spend) := by
    rw [List.getElem?_map, hm, Option.map_some, receiver, hpublic]
  obtain ⟨own, hown, hprivate, k, hfound, hk, hfirst⟩ :=
    GhostKeys.received_of_create hE hcreate hreceiver
  rw [hpublic]
  exact ⟨o, _, Key.ofScalar own, Key.ofBaseMultiple E own, k, hp.trans_le hcount, ho,
    Account.ofPrivateSpend_eq_ok_iff.mpr ⟨spend, hscalar, rfl⟩, hprivate,
    Key.publicKey_ofScalar own, hown, hfound, hk, hfirst⟩

end Blueprint

theorem Payment.receives_of_build_mixed :
    ∃ (fetched : List GhostKeys) (b : Blueprint) (s : Session) (spend : Scalar) (o : Output)
      (account : Account) (k : Nat),
      b.outputs = mixedOutputs (Key.ofBaseMultiple Curve.ofScalars spend) ∧
      b.build Curve.ofScalars fetched (Entropy.cycle []) = .ok s ∧ s.tx.outputs[1]? = some o ∧
      Account.ofPrivateSpend Curve.ofScalars (Key.ofScalar spend) = .ok account ∧
      GhostKeys.findOwned Curve.ofScalars ⟨o.mask, o.keys⟩ account.privateView
        (Key.ofBaseMultiple Curve.ofScalars spend) 1 b.version = .ok (some k) := by
  have hE := Curve.isLawful_ofScalars
  let publicSpend := Key.ofBaseMultiple Curve.ofScalars 7
  have hkey : publicSpend.isPoint Curve.ofScalars = true := hE.isSome_decompress _
  obtain ⟨b, s, _, houtputs, hbuild⟩ := exists_build_mixed hkey
  have hout : b.outputs[1]? = some ⟨MixAddress.member publicSpend, Amount.ofUInt64 3, false⟩ := by
    rw [houtputs]
    rfl
  have hspend : (Key.ofScalar 7).publicKey Curve.ofScalars = .ok publicSpend :=
    Key.publicKey_ofScalar 7
  obtain ⟨o, account, _, _, k, _, ho, haccount, _, _, _, hfound, _⟩ :=
    Blueprint.receives_of_build hE hbuild hout rfl (List.getElem?_cons_zero ..) hspend
  exact ⟨_, b, s, 7, o, account, k, houtputs, hbuild, ho, haccount, hfound⟩

end KernelWallet
