import KernelWallet.Proofs.Ghost
import KernelWallet.Proofs.Payment.Balance
import KernelWallet.Proofs.Payment.Signing
import KernelWallet.Proofs.Relay
import KernelWallet.Proofs.Verification

/-! A payment from its making to the network: whoever owns the outputs that it spends can sign it,
and the signatures are accepted, here and by those that it is relayed to. -/

namespace KernelWallet

variable {E : Curve}

/-- One of the keys of the output belongs to the one-time key that the account derives for it. -/
def Account.Owns (E : Curve) (a : Account) (o : Spendable) : Prop :=
  ∃ key publicKey,
    Ghost.privateKey E o.mask a.privateView a.privateSpend o.index o.version = .ok key ∧
    key.publicKey E = .ok publicKey ∧ publicKey ∈ o.keys

theorem Account.owns_of_mem {spend view : Scalar} {o : Spendable} {mask : E.Point}
    (hmask : o.mask.point E = .ok mask)
    (h : Key.ofBaseMultiple E (Ghost.sharedTweak E view mask o.index o.version + spend) ∈ o.keys) :
    (Account.ofScalars E spend view).Owns E o := by
  exact ⟨_, _, Ghost.privateKey_ofScalar hmask view spend, Key.publicKey_ofScalar _, h⟩

/-! ## Signing -/

theorem SigningJob.isAccepted_of_make (hE : E.IsLawful) {hash : Hash} {j : SigningJob}
    {x : InputSignature} (hkeys : j.output.keys.length ≤ 65536) (h : j.make E hash = .ok x) :
    (SignerMap.single x.slot x.signature).IsAccepted E hash j.output.keys := by
  obtain ⟨key, publicKey, n, sig, _, hpublic, hslot, hsig, rfl⟩ := make_eq_ok_iff.mp h
  obtain ⟨s, hs, rfl⟩ := Key.publicKey_eq_ok_iff.mp hpublic
  obtain ⟨hn, _⟩ := InputSignature.slotOf_eq_some_iff.mp hslot
  have hlt : n < 65536 := (List.getElem?_eq_some_iff.mp hn).1.trans_le hkeys
  have hnat : (UInt16.ofNat n).toNat = n := by
    rw [UInt16.toNat_ofNat', Nat.mod_eq_of_lt hlt]
  refine ⟨by simp [SignerMap.single, SignerMap.insert, SignerMap.insertEntry, SignerMap.empty], ?_⟩
  refine List.forall_mem_singleton.mpr ⟨_, ?_, Key.verify_sign hE hs hsig⟩
  rw [hnat]
  exact hn

namespace SigningRequest

variable {a : Account} {outputs : List Spendable}

theorem output_jobs_withAccount (a : Account) (outputs : List Spendable) :
    ((withAccount a outputs).jobs E).map SigningJob.output = outputs := by
  rw [jobs, List.map_map]
  exact List.zipIdx_map_fst 0 outputs

theorem input_jobs_withAccount (a : Account) (outputs : List Spendable) :
    ((withAccount a outputs).jobs E).map SigningJob.input = List.range outputs.length := by
  rw [jobs, List.map_map, List.range_eq_range']
  exact List.zipIdx_map_snd 0 outputs

theorem exists_make_of_owns (hash : Hash) (howns : ∀ o ∈ outputs, a.Owns E o) :
    ∀ j ∈ (withAccount a outputs).jobs E, ∃ x, j.make E hash = .ok x := by
  intro j hj
  obtain ⟨⟨o, i⟩, ho, rfl⟩ := List.mem_map.mp hj
  obtain ⟨key, publicKey, hkey, hpublic, hmem⟩ := howns o (List.fst_mem_of_mem_zipIdx ho)
  obtain ⟨s, hs, _⟩ := Key.publicKey_eq_ok_iff.mp hpublic
  obtain ⟨n, hn⟩ : ∃ n, InputSignature.slotOf o.keys publicKey none = some n := by
    refine Option.isSome_iff_exists.mp ?_
    simpa [InputSignature.slotOf] using hmem
  obtain ⟨r, hsig⟩ := Key.exists_sign (E := E) hs hash.toBytes
  exact ⟨_, SigningJob.make_eq_ok_iff.mpr ⟨key, publicKey, n, _, mapError_eq_ok_iff.mpr hkey,
    hpublic, hn, hsig, rfl⟩⟩

theorem isAccepted_of_withAccount (hE : E.IsLawful) {hash : Hash} {xs : List InputSignature}
    (hkeys : ∀ o ∈ outputs, o.keys.length ≤ 65536)
    (hmade : List.Forall₂ (fun j x => SigningJob.make E hash j = .ok x)
      ((withAccount a outputs).jobs E) xs) :
    List.Forall₂ (SignerMap.IsAccepted E hash)
      (xs.map fun x => SignerMap.single x.slot x.signature) (outputs.map Spendable.keys) := by
  have hjobs : ∀ j ∈ (withAccount a outputs).jobs E, j.output.keys.length ≤ 65536 := by
    intro j hj
    refine hkeys _ ?_
    rw [← output_jobs_withAccount (E := E) a outputs]
    exact List.mem_map_of_mem hj
  have hboth := (List.forall₂_and_left _ _).mpr ⟨hjobs, hmade⟩
  rw [← output_jobs_withAccount (E := E) a outputs, List.map_map, List.forall₂_map_left_iff,
    List.forall₂_map_right_iff]
  exact hboth.flip.imp fun x j h => SigningJob.isAccepted_of_make hE h.1 h.2

end SigningRequest

/-! ## From the payment to the network -/

namespace Session

/-- A sealed session of a plain transaction that no one has signed. -/
structure Fresh (E : Curve) (s : Session) (hash : Hash) : Prop where
  state : s.state = .built
  sealed : s.hash = some hash
  named : s.tx.payloadHash = .ok hash
  valid : s.tx.validate E = .ok ()
  plain : ∀ o ∈ s.tx.outputs, o.withdrawal = none
  unsigned : s.tx.signatures = .groups (List.replicate s.tx.inputs.length SignerMap.empty)

variable {s : Session} {hash : Hash} {a : Account} {outputs : List Spendable}

theorem Fresh.groups_eq (h : s.Fresh E hash) :
    s.groups = List.replicate s.tx.inputs.length SignerMap.empty := by
  rw [groups, h.unsigned]

theorem Fresh.signature?_eq_none (h : s.Fresh E hash) (input : Nat) (slot : UInt16) :
    s.signature? input slot = none := by
  rw [signature?, h.groups_eq, List.getElem?_replicate]
  split <;> rfl

theorem checkSpends_of_map_input (h : outputs.map Spendable.input = s.tx.inputs) :
    s.checkSpends outputs = .ok () := by
  rw [checkSpends_eq_ok_iff, ← h, List.forall₂_map_left_iff, List.forall₂_same]
  intro o _
  simp [Spendable.input, Input.ofOutput, Spendable.isOutpoint]

/-- The owner of all outputs that are spent can sign, once for each input. -/
theorem Fresh.exists_signed (h : s.Fresh E hash)
    (houtputs : outputs.map Spendable.input = s.tx.inputs) (howns : ∀ o ∈ outputs, a.Owns E o) :
    ∃ xs, List.Forall₂ (fun j x => SigningJob.make E hash j = .ok x)
        ((SigningRequest.withAccount a outputs).jobs E) xs ∧
      xs.length = s.tx.inputs.length ∧
      (signWithAccount E a outputs).run s = .ok () (s.signedBy xs) := by
  have hlen : outputs.length = s.tx.inputs.length := by
    rw [← houtputs, List.length_map]
  obtain ⟨xs, hmade⟩ := exists_mapM_of_forall (SigningRequest.exists_make_of_owns hash howns)
  have hmade := mapM_eq_ok_iff.mp hmade
  have hinputs : xs.map InputSignature.input = List.range s.tx.inputs.length := by
    rw [map_input_of_make hmade, SigningRequest.input_jobs_withAccount, hlen]
  have hlt : ∀ x ∈ xs, x.input < s.tx.inputs.length := by
    intro x hx
    rw [← List.mem_range, ← hinputs]
    exact List.mem_map_of_mem hx
  have hsigns : (SigningRequest.withAccount a outputs).signatures E s = .ok xs :=
    SigningRequest.signatures_eq_ok_iff.mpr
      ⟨checkSpends_of_map_input houtputs, hash, h.sealed, hmade⟩
  have hgroups : s.groups.length = s.tx.inputs.length := by
    rw [h.groups_eq, List.length_replicate]
  have hplaced : xs.foldl placed s = s.signedBy xs := by
    refine foldl_placed_eq_signedBy ?_ hgroups h.signature?_eq_none hinputs
    rw [h.unsigned, h.groups_eq]
  refine ⟨xs, hmade, ?_, SigningRequest.run_eq_ok_iff.mpr ⟨xs, hsigns, hlt, hplaced.symm⟩⟩
  rw [← List.length_map InputSignature.input, hinputs, List.length_range]

theorem Fresh.verifySignatures_signedBy (h : s.Fresh E hash) {xs : List InputSignature}
    {keys : List (List Key)} (hcount : xs.length = s.tx.inputs.length)
    (haccepted : List.Forall₂ (SignerMap.IsAccepted E hash)
      (xs.map fun x => SignerMap.single x.slot x.signature) keys) :
    (s.signedBy xs).verifySignatures E keys = .ok () := by
  refine (verifySignatures_eq_ok_iff rfl).mpr ⟨hash, h.sealed, haccepted, ?_⟩
  exact (List.length_map _).trans hcount

theorem Fresh.exists_raw_signedBy (h : s.Fresh E hash) (hv : Version.isBinary s.tx.version = true)
    {xs : List InputSignature} (hcount : xs.length = s.tx.inputs.length) :
    ∃ b, (s.signedBy xs).raw = .ok b := by
  refine exists_raw hv h.named ⟨?_, ?_⟩
  · have hle := (Transaction.validate_eq_ok_iff.mp h.valid).inputs_le
    rw [List.length_map, hcount]
    exact hle.trans (by decide)
  · intro g hg
    obtain ⟨x, _, rfl⟩ := List.mem_map.mp hg
    exact (by decide : 1 ≤ 65535)

/-- Whatever signatures it gets, it reads back with them. -/
theorem Fresh.decode_of_raw (h : s.Fresh E hash) (hv : Version.isBinary s.tx.version = true)
    {signatures : Signatures} {b : Bytes} (hraw : (s.withSignatures signatures).raw = .ok b) :
    decode b = .ok (s.withSignatures signatures) := by
  have hpayload : (s.withSignatures signatures).tx.payload = s.tx.payload := rfl
  have hvalid : (s.withSignatures signatures).tx.validate E = .ok () :=
    (validate_congr hpayload).trans h.valid
  have hwire : (s.withSignatures signatures).tx.onWire = (s.withSignatures signatures).tx :=
    Transaction.onWire_eq_self hvalid h.plain
  have hnamed : (s.withSignatures signatures).tx.payloadHash = .ok hash :=
    (payloadHash_congr hpayload).trans h.named
  have hle := (Transaction.validate_eq_ok_iff.mp hvalid).extra_le
  have hbinary := Version.not_lt_binary_of_isBinary hv
  rw [Session.decode_of_raw hle (absurd · hbinary) hnamed hraw, hwire, ← h.state, ← h.sealed]
  rfl

end Session

namespace Payment

variable {p : Payment} {fetched : List GhostKeys} {e : Entropy} {s : Session}

theorem fresh_of_build (h : p.build E fetched e = .ok s) :
    ∃ hash, s.Fresh E hash ∧ s.tx.version = p.version := by
  obtain ⟨b, hplan, hbuild⟩ := bind_eq_ok_iff.mp h
  obtain ⟨first, rest, total, remaining, _, _, _, _, _, _, _, _, rfl⟩ := plan_eq_ok_iff.mp hplan
  obtain ⟨_, made, hash, hmade, hvalid, hhash, rfl⟩ := Blueprint.build_eq_ok_iff.mp hbuild
  refine ⟨hash, ⟨rfl, rfl, hhash, hvalid, fun o ho => ?_, ?_⟩, rfl⟩
  · obtain ⟨out, _, hpays⟩ := exists_of_forall₂ (Blueprint.pays_of_outputsFrom hmade) ho
    exact hpays.withdrawal
  · simp only [Blueprint.transaction, List.length_map]

/-- Whoever owns the outputs that a payment spends can sign it, once for each input. The signatures
are accepted, and the bytes of the transaction read back as the same session, so that they are
accepted again. -/
theorem spend_of_build (hE : E.IsLawful) (hv : Version.isBinary p.version = true)
    (h : p.build E fetched e = .ok s) (a : Account) {outputs : List Spendable}
    (houtputs : outputs.map Spendable.input = s.tx.inputs)
    (hkeys : ∀ o ∈ outputs, o.keys.length ≤ 65536) (howns : ∀ o ∈ outputs, a.Owns E o) :
    ∃ signed b relayed, (Session.signWithAccount E a outputs).run s = .ok () signed ∧
      signed.verifySignatures E (outputs.map Spendable.keys) = .ok () ∧
      signed.raw = .ok b ∧ Session.decode b = .ok relayed ∧
      relayed.hash = signed.hash ∧
      relayed.verifySignatures E (outputs.map Spendable.keys) = .ok () := by
  obtain ⟨hash, hfresh, hversion⟩ := fresh_of_build h
  have hv : Version.isBinary s.tx.version = true := hversion ▸ hv
  obtain ⟨xs, hmade, hcount, hrun⟩ := hfresh.exists_signed houtputs howns
  have haccepted := SigningRequest.isAccepted_of_withAccount hE hkeys hmade
  have hverified := hfresh.verifySignatures_signedBy hcount haccepted
  obtain ⟨b, hraw⟩ := hfresh.exists_raw_signedBy hv hcount
  have hdecode := hfresh.decode_of_raw hv hraw
  exact ⟨s.signedBy xs, b, s.signedBy xs, hrun, hverified, hraw, hdecode, rfl, hverified⟩

/-- The keys of both outputs of a transaction, derived from the same mask for one receiver. -/
def ghostKeysOf (E : Curve) (spend view : Scalar) (mask : E.Point) : List Key :=
  [0, 1].map fun index =>
    Key.ofBaseMultiple E (Ghost.sharedTweak E view mask index Version.latest + spend)

theorem owns_splitting (hE : E.IsLawful) (spend view : Scalar) (mask : E.Point) :
    ∀ o ∈ (splitting (Key.ofPoint E mask) (ghostKeysOf E spend view mask)).inputs,
      (Account.ofScalars E spend view).Owns E o := by
  have hmask := Key.point_ofPoint (hE.decompress_compress mask)
  rw [splitting, List.forall_mem_cons, List.forall_mem_singleton]
  constructor
  · exact Account.owns_of_mem hmask (.head _)
  · exact Account.owns_of_mem hmask (.tail _ (.head _))

theorem spend_of_build_splitting :
    Curve.ofScalars.IsLawful ∧ ∃ (p : Payment) (fetched : List GhostKeys) (e : Entropy)
      (s : Session) (a : Account) (signed relayed : Session) (b : Bytes),
      Version.isBinary p.version = true ∧
      p.build Curve.ofScalars fetched e = .ok s ∧ p.inputs.map Spendable.input = s.tx.inputs ∧
      (∀ o ∈ p.inputs, o.keys.length ≤ 65536) ∧ (∀ o ∈ p.inputs, a.Owns Curve.ofScalars o) ∧
      (Session.signWithAccount Curve.ofScalars a p.inputs).run s = .ok () signed ∧
      signed.raw = .ok b ∧ Session.decode b = .ok relayed ∧
      relayed.verifySignatures Curve.ofScalars (p.inputs.map Spendable.keys) = .ok () := by
  have hE := Curve.isLawful_ofScalars
  let base := Curve.ofScalars.base
  let p := splitting (Key.ofPoint Curve.ofScalars base) (ghostKeysOf Curve.ofScalars 5 7 base)
  have hkey := Key.isPoint_ofPoint (hE.decompress_compress base)
  obtain ⟨hash, hbuild⟩ := build_splitting hkey (Key.ofPoint Curve.ofScalars base)
    (ghostKeysOf Curve.ofScalars 5 7 base) (Entropy.cycle [])
  have hkeys : ∀ o ∈ p.inputs, o.keys.length ≤ 65536 := by
    simp [p, splitting, ghostKeysOf]
  have howns := owns_splitting hE 5 7 base
  obtain ⟨signed, b, relayed, hrun, _, hraw, hdecode, _, hverified⟩ :=
    spend_of_build hE (by decide) hbuild _ rfl hkeys howns
  exact ⟨hE, p, _, _, _, _, signed, relayed, b, by decide, hbuild, rfl, hkeys, howns, hrun, hraw,
    hdecode, hverified⟩

end Payment

end KernelWallet
