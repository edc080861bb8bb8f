import KernelWallet.Proofs.Wire.ReadsBack
import KernelWallet.Proofs.Wire.Spelling

/-! A transaction that is read from the big-endian form is written back in the bytes that it was
read from, but for the zeros in front of its amounts. -/

namespace KernelWallet

def Input.amounts (i : Input) : List Amount :=
  (i.deposit.map Deposit.amount).toList ++ (i.mint.map Mint.amount).toList

/-- The amounts of a transaction in the order in which they are written. -/
def Transaction.amounts (tx : Transaction) : List Amount :=
  tx.inputs.flatMap Input.amounts ++ tx.outputs.map Output.amount

namespace Wire

/-! ## Inputs -/

theorem spelled_deposit {d : Deposit} {s rest : Bytes} (h : readDeposit.run s = .ok (d, rest)) :
    Spelled (writeDeposit d) [d.amount] s rest := by
  obtain ⟨chain, _, hchain, h⟩ := run_bind_eq_ok_iff.mp h
  obtain ⟨assetKey, _, hkey, h⟩ := run_bind_eq_ok_iff.mp h
  obtain ⟨transaction, _, htx, h⟩ := run_bind_eq_ok_iff.mp h
  obtain ⟨index, _, hindex, h⟩ := run_bind_eq_ok_iff.mp h
  obtain ⟨amount, _, hamount, h⟩ := run_bind_eq_ok_iff.mp h
  obtain ⟨rfl, rfl⟩ := Prod.mk.inj (Except.ok.inj h)
  obtain rfl := eq_of_readHash hchain
  obtain ⟨_, hwkey, rfl⟩ := exists_writeText "asset_key" hkey
  obtain ⟨_, hwtx, rfl⟩ := exists_writeText "transaction" htx
  obtain rfl := eq_of_readUInt64 hindex
  obtain ⟨_, hwamount, hspelled⟩ := spelled_amount hamount
  refine ⟨_, ?_, ((((SpelledAs.same ..).append (.same ..)).append (.same ..)).append
    (.same ..)).append hspelled⟩
  simp only [writeDeposit, hwkey, hwtx, hwamount]
  rfl

theorem spelled_mint {m : Mint} {s rest : Bytes} (h : readMint.run s = .ok (m, rest)) :
    Spelled (writeMint m) [m.amount] s rest := by
  obtain ⟨group, _, hgroup, h⟩ := run_bind_eq_ok_iff.mp h
  obtain ⟨batch, _, hbatch, h⟩ := run_bind_eq_ok_iff.mp h
  obtain ⟨amount, _, hamount, h⟩ := run_bind_eq_ok_iff.mp h
  obtain ⟨rfl, rfl⟩ := Prod.mk.inj (Except.ok.inj h)
  obtain ⟨_, hwgroup, rfl⟩ := exists_writeText "group" hgroup
  obtain rfl := eq_of_readUInt64 hbatch
  obtain ⟨_, hwamount, hspelled⟩ := spelled_amount hamount
  refine ⟨_, ?_, ((SpelledAs.same ..).append (.same ..)).append hspelled⟩
  simp only [writeMint, hwgroup, hwamount]
  rfl

theorem eq_of_readIndex {i : UInt8} {s rest : Bytes} (h : readIndex.run s = .ok (i, rest)) :
    s = writeUInt16 i.toUInt16 ++ rest := by
  obtain ⟨n, t, hn, h⟩ := run_bind_eq_ok_iff.mp h
  split at h
  · next hlt =>
    obtain ⟨rfl, rfl⟩ := Prod.mk.inj (Except.ok.inj h)
    obtain ⟨_, rfl⟩ := eq_of_readNat hn
    rw [writeUInt16, UInt8.toNat_toUInt16, UInt8.toNat_ofNat', Nat.mod_eq_of_lt hlt]
  · exact absurd h (run_throw_ne_ok _ _ _)

theorem spelled_input {i : Input} {s rest : Bytes} (h : readInput.run s = .ok (i, rest)) :
    Spelled (writeInput i) i.amounts s rest := by
  obtain ⟨hash, _, hhash, h⟩ := run_bind_eq_ok_iff.mp h
  obtain ⟨index, _, hindex, h⟩ := run_bind_eq_ok_iff.mp h
  obtain ⟨genesis, _, hgenesis, h⟩ := run_bind_eq_ok_iff.mp h
  obtain ⟨deposit, _, hdeposit, h⟩ := run_bind_eq_ok_iff.mp h
  obtain ⟨mint, _, hmint, h⟩ := run_bind_eq_ok_iff.mp h
  obtain ⟨rfl, rfl⟩ := Prod.mk.inj (Except.ok.inj h)
  obtain rfl := eq_of_readHash hhash
  obtain rfl := eq_of_readIndex hindex
  obtain ⟨_, hwgenesis, rfl⟩ := exists_writeBytes "genesis" hgenesis
  obtain ⟨_, hwdeposit, hspelled⟩ := spelled_option spelled_deposit hdeposit
  obtain ⟨_, hwmint, hspelled'⟩ := spelled_option spelled_mint hmint
  rw [Input.amounts, Option.toList_map, Option.toList_map, List.map_eq_flatMap,
    List.map_eq_flatMap]
  refine ⟨_, ?_, ((((SpelledAs.same ..).append (.same ..)).append (.same ..)).append
    hspelled).append hspelled'⟩
  simp only [writeInput, hwgenesis, hwdeposit, hwmint]
  rfl

/-! ## Outputs -/

theorem eq_of_readKind {k : OutputType} {s rest : Bytes} (h : readKind.run s = .ok (k, rest)) :
    s = [0, k.toByte] ++ rest := by
  obtain ⟨word, t, hword, h⟩ := run_bind_eq_ok_iff.mp h
  have hs := eq_of_readUInt16 hword
  split at h
  · next hlt =>
    split at h
    · next hk =>
      obtain ⟨rfl, rfl⟩ := Prod.mk.inj (Except.ok.inj h)
      have hbyte : word.toUInt8.toUInt16 = word := by
        have hnat : word.toNat < 256 := UInt16.lt_iff_toNat_lt.mp hlt
        apply UInt16.toNat_inj.mp
        rw [UInt8.toNat_toUInt16, UInt16.toNat_toUInt8, Nat.mod_eq_of_lt hnat]
      rw [hs, OutputType.toByte_of_ofByte? hk, ← writeUInt16_toUInt16, hbyte]
    · exact absurd h (run_throw_ne_ok _ _ _)
  · exact absurd h (run_throw_ne_ok _ _ _)

theorem exists_writeSource {version : UInt8} {source : Hash × String} {s rest : Bytes}
    (address tag : String) (h : (readSource version).run s = .ok (source, rest)) :
    ∃ b, writeSource version ⟨source.1, source.2, address, tag⟩ = .ok b ∧ s = b ++ rest := by
  rw [readSource] at h
  rw [writeSource]
  split at h
  · next hv =>
    obtain ⟨chain, _, hchain, h⟩ := run_bind_eq_ok_iff.mp h
    obtain ⟨assetKey, _, hkey, h⟩ := run_bind_eq_ok_iff.mp h
    obtain ⟨rfl, rfl⟩ := Prod.mk.inj (Except.ok.inj h)
    obtain rfl := eq_of_readHash hchain
    obtain ⟨b, hb, rfl⟩ := exists_writeText "asset_key" hkey
    refine ⟨chain.toBytes ++ b, ?_, (List.append_assoc ..).symm⟩
    rw [if_pos hv, hb]
    rfl
  · next hv =>
    obtain ⟨rfl, rfl⟩ := Prod.mk.inj (Except.ok.inj h)
    exact ⟨[], if_neg hv, rfl⟩

theorem spelled_withdrawal {version : UInt8} {w : Withdrawal} {s rest : Bytes}
    (h : (readWithdrawal version).run s = .ok (w, rest)) :
    Spelled (writeWithdrawal version w) [] s rest := by
  obtain ⟨source, _, hsource, h⟩ := run_bind_eq_ok_iff.mp h
  obtain ⟨address, _, haddress, h⟩ := run_bind_eq_ok_iff.mp h
  obtain ⟨tag, _, htag, h⟩ := run_bind_eq_ok_iff.mp h
  obtain ⟨rfl, rfl⟩ := Prod.mk.inj (Except.ok.inj h)
  obtain ⟨_, hwsource, rfl⟩ := exists_writeSource address tag hsource
  obtain ⟨_, hwaddress, rfl⟩ := exists_writeText "address" haddress
  obtain ⟨_, hwtag, rfl⟩ := exists_writeText "tag" htag
  refine ⟨_, ?_, ((SpelledAs.same ..).append (.same ..)).append (.same ..)⟩
  simp only [writeWithdrawal, hwsource, hwaddress, hwtag]
  rfl

theorem onWire_of_readWithdrawal {version : UInt8} {w : Withdrawal} {s rest : Bytes}
    (h : (readWithdrawal version).run s = .ok (w, rest)) : w.onWire version = w := by
  obtain ⟨source, _, hsource, h⟩ := run_bind_eq_ok_iff.mp h
  obtain ⟨address, _, _, h⟩ := run_bind_eq_ok_iff.mp h
  obtain ⟨tag, _, _, h⟩ := run_bind_eq_ok_iff.mp h
  obtain ⟨rfl, rfl⟩ := Prod.mk.inj (Except.ok.inj h)
  rw [readSource] at hsource
  rw [Withdrawal.onWire]
  split
  · rfl
  · next hv =>
    rw [if_neg hv] at hsource
    obtain ⟨rfl, rfl⟩ := Prod.mk.inj (Except.ok.inj hsource)
    rfl

theorem spelled_output {version : UInt8} {o : Output} {s rest : Bytes}
    (h : (readOutput version).run s = .ok (o, rest)) :
    Spelled (writeOutput version o) [o.amount] s rest := by
  obtain ⟨kind, _, hkind, h⟩ := run_bind_eq_ok_iff.mp h
  obtain ⟨amount, _, hamount, h⟩ := run_bind_eq_ok_iff.mp h
  obtain ⟨keys, _, hkeys, h⟩ := run_bind_eq_ok_iff.mp h
  obtain ⟨mask, _, hmask, h⟩ := run_bind_eq_ok_iff.mp h
  obtain ⟨script, _, hscript, h⟩ := run_bind_eq_ok_iff.mp h
  obtain ⟨withdrawal, _, hwithdrawal, h⟩ := run_bind_eq_ok_iff.mp h
  obtain ⟨rfl, rfl⟩ := Prod.mk.inj (Except.ok.inj h)
  obtain rfl := eq_of_readKind hkind
  obtain ⟨_, hwamount, hspelled⟩ := spelled_amount hamount
  obtain ⟨_, _, hwcount, rfl, heach⟩ := readEach_of_readList "keys" hkeys
  obtain rfl := heach.eq_flatMap eq_of_readKey
  obtain rfl := eq_of_readKey hmask
  obtain ⟨_, hwscript, rfl⟩ := exists_writeBytes "script" hscript
  obtain ⟨_, hwwithdrawal, hspelled'⟩ := spelled_option spelled_withdrawal hwithdrawal
  have hnone : withdrawal.toList.flatMap (fun _ => ([] : List Amount)) = [] := by simp
  rw [hnone] at hspelled'
  refine ⟨_, ?_, ((((((SpelledAs.same ..).append hspelled).append (.same ..)).append
    (.same ..)).append (.same ..)).append (.same ..)).append hspelled'⟩
  simp only [writeOutput, hwamount, hwcount, hwscript, hwwithdrawal]
  rfl

theorem onWire_of_readOutput {version : UInt8} {o : Output} {s rest : Bytes}
    (h : (readOutput version).run s = .ok (o, rest)) : o.onWire version = o := by
  obtain ⟨kind, _, _, h⟩ := run_bind_eq_ok_iff.mp h
  obtain ⟨amount, _, _, h⟩ := run_bind_eq_ok_iff.mp h
  obtain ⟨keys, _, _, h⟩ := run_bind_eq_ok_iff.mp h
  obtain ⟨mask, _, _, h⟩ := run_bind_eq_ok_iff.mp h
  obtain ⟨script, _, _, h⟩ := run_bind_eq_ok_iff.mp h
  obtain ⟨withdrawal, _, hwithdrawal, h⟩ := run_bind_eq_ok_iff.mp h
  obtain ⟨rfl, rfl⟩ := Prod.mk.inj (Except.ok.inj h)
  rcases cases_of_readOption hwithdrawal with ⟨rfl, _⟩ | ⟨w, t, rfl, _, hw⟩
  · rfl
  · rw [Output.onWire, Option.map_some, onWire_of_readWithdrawal hw]

/-! ## Signatures -/

theorem lt_of_checkAscending {signer : UInt16} {last : Option UInt16} {s t : Bytes} {u : Unit}
    (h : (checkAscending signer last).run s = .ok (u, t)) : (∀ l ∈ last, l < signer) ∧ s = t := by
  cases last with
  | none =>
    obtain ⟨_, rfl⟩ := Prod.mk.inj (Except.ok.inj h)
    exact ⟨by simp, rfl⟩
  | some last =>
    rw [checkAscending] at h
    split at h
    · exact absurd h (run_throw_ne_ok _ _ _)
    · next hlt =>
      obtain ⟨_, rfl⟩ := Prod.mk.inj (Except.ok.inj h)
      refine ⟨fun l hl => ?_, rfl⟩
      obtain rfl := Option.mem_some.mp hl
      exact UInt16.not_le.mp hlt

section

variable {α : Type} {signerOf : α → UInt16} {read : UInt16 → Reader α} {write : α → Bytes}

theorem ascending_of_readAscendingFrom
    (hread : ∀ {signer s a rest}, (read signer).run s = .ok (a, rest) →
      signerOf a = signer ∧ s = write a ++ rest)
    {n : Nat} {done l : List α} {s rest : Bytes}
    (hdone : done.Pairwise fun a b => signerOf b < signerOf a)
    (h : (readAscendingFrom signerOf read n done).run s = .ok (l, rest)) :
    ∃ as, as.length = n ∧ l = done.reverse ++ as ∧
      (l.Pairwise fun a b => signerOf a < signerOf b) ∧
      s = (as.flatMap fun a => writeUInt16 (signerOf a) ++ write a) ++ rest := by
  induction n generalizing done s with
  | zero =>
    obtain ⟨rfl, rfl⟩ := Prod.mk.inj (Except.ok.inj h)
    exact ⟨[], rfl, (List.append_nil _).symm, List.pairwise_reverse.mpr hdone, rfl⟩
  | succ n ih =>
    obtain ⟨signer, _, hsigner, h⟩ := run_bind_eq_ok_iff.mp h
    obtain ⟨_, _, hcheck, h⟩ := run_bind_eq_ok_iff.mp h
    obtain ⟨a, _, ha, htail⟩ := run_bind_eq_ok_iff.mp h
    obtain ⟨hlast, rfl⟩ := lt_of_checkAscending hcheck
    obtain ⟨rfl, rfl⟩ := hread ha
    obtain rfl := eq_of_readUInt16 hsigner
    -- the last signer read is the greatest of those read
    have hall : ∀ x ∈ done, signerOf x < signerOf a := by
      cases done with
      | nil => simp
      | cons y done =>
        have hy := hlast (signerOf y) rfl
        intro x hx
        rcases List.mem_cons.mp hx with rfl | hx
        · exact hy
        · exact UInt16.lt_trans ((List.pairwise_cons.mp hdone).1 x hx) hy
    obtain ⟨as, hlen, rfl, hpairwise, rfl⟩ := ih (List.pairwise_cons.mpr ⟨hall, hdone⟩) htail
    exact ⟨a :: as, by rw [List.length_cons, hlen], by simp, hpairwise, by simp⟩

theorem ascending_of_readAscending
    (hread : ∀ {signer s a rest}, (read signer).run s = .ok (a, rest) →
      signerOf a = signer ∧ s = write a ++ rest)
    {l : List α} {s rest : Bytes} (field : String)
    (h : (readAscending signerOf read).run s = .ok (l, rest)) :
    ∃ count, writeCount field l.length = .ok count ∧
      (l.Pairwise fun a b => signerOf a < signerOf b) ∧
      s = count ++ (l.flatMap fun a => writeUInt16 (signerOf a) ++ write a) ++ rest := by
  obtain ⟨n, _, hn, h⟩ := run_bind_eq_ok_iff.mp h
  obtain ⟨as, rfl, rfl, hpairwise, rfl⟩ := ascending_of_readAscendingFrom hread .nil h
  obtain ⟨count, hcount, rfl⟩ := exists_writeCount field hn
  exact ⟨count, hcount, hpairwise, (List.append_assoc ..).symm⟩

end

theorem exists_writeGroup {g : SignerMap} {s rest : Bytes} (h : readGroup.run s = .ok (g, rest)) :
    ∃ b, writeGroup g = .ok b ∧ s = b ++ rest := by
  obtain ⟨l, _, hl, h⟩ := run_bind_eq_ok_iff.mp h
  obtain ⟨rfl, rfl⟩ := Prod.mk.inj (Except.ok.inj h)
  have hentry : ∀ {signer : UInt16} {s : Bytes} {e : UInt16 × Signature} {rest : Bytes},
      (do return (signer, ← readSignature) : Reader _).run s = .ok (e, rest) →
        e.1 = signer ∧ s = e.2.toBytes ++ rest := by
    intro signer s e rest h
    obtain ⟨sig, _, hsig, h⟩ := run_bind_eq_ok_iff.mp h
    obtain ⟨rfl, rfl⟩ := Prod.mk.inj (Except.ok.inj h)
    exact ⟨rfl, eq_of_readSignature hsig⟩
  obtain ⟨count, hcount, hpairwise, rfl⟩ := ascending_of_readAscending hentry "signers" hl
  have hentries : (SignerMap.ofList l).entries = l := lastPerKey_of_pairwise hpairwise
  refine ⟨_, ?_, rfl⟩
  rw [writeGroup, hentries, hcount]
  rfl

theorem exists_bitmap {l : List UInt16} {s rest : Bytes} (field : String)
    (h : readBitmap.run s = .ok (l, rest)) :
    ∃ b, writeBytes field (SignerSet.ofList l).bitmap = .ok b ∧ s = b ++ rest := by
  obtain ⟨bitmap, _, hbitmap, h⟩ := run_bind_eq_ok_iff.mp h
  split at h
  · exact absurd h (run_throw_ne_ok _ _ _)
  · next hlen =>
    split at h
    · exact absurd h (run_throw_ne_ok _ _ _)
    · next hlast =>
      obtain ⟨rfl, rfl⟩ := Prod.mk.inj (Except.ok.inj h)
      rw [SignerSet.bitmap_ofList (Nat.not_lt.mp hlen) hlast]
      exact exists_writeBytes field hbitmap

theorem exists_writeSigners {set : SignerSet} {s rest : Bytes}
    (h : readSigners.run s = .ok (set, rest)) :
    ∃ b, writeSigners set = .ok b ∧ s = b ++ rest := by
  obtain ⟨mode, _, hmode, h⟩ := run_bind_eq_ok_iff.mp h
  obtain ⟨l, _, hl, h⟩ := run_bind_eq_ok_iff.mp h
  dsimp only at h
  split at h
  · next hsparse =>
    obtain ⟨rfl, rfl⟩ := Prod.mk.inj (Except.ok.inj h)
    obtain rfl := eq_of_readUInt8 hmode
    rw [readLayout] at hl
    rw [writeSigners]
    split at hl
    · next hlist =>
      obtain rfl := hlist
      have hid : ∀ {signer : UInt16} {s : Bytes} {a : UInt16} {rest : Bytes},
          (pure signer : Reader UInt16).run s = .ok (a, rest) → id a = signer ∧ s = [] ++ rest := by
        intro signer s a rest h
        obtain ⟨rfl, rfl⟩ := Prod.mk.inj (Except.ok.inj h)
        exact ⟨rfl, rfl⟩
      obtain ⟨count, hcount, hpairwise, rfl⟩ := ascending_of_readAscending hid "signers" hl
      have htoList : (SignerSet.ofList l).toList = l := SignerSet.toList_ofList hpairwise
      refine ⟨[Marker.list] ++ count ++ l.flatMap writeUInt16, ?_, by simp⟩
      rw [if_pos (by rw [hsparse]; rfl), htoList, hcount]
      rfl
    · split at hl
      · next hbitmap =>
        obtain rfl := hbitmap
        obtain ⟨b, hb, rfl⟩ := exists_bitmap "signers" hl
        refine ⟨[Marker.bitmap] ++ b, ?_, rfl⟩
        rw [if_neg (by rw [hsparse]; decide), hb]
        rfl
      · exact absurd hl (run_throw_ne_ok _ _ _)
  · exact absurd h (run_throw_ne_ok _ _ _)

theorem exists_writeAggregated {a : AggregatedSignature} {s rest : Bytes}
    (h : readAggregated.run s = .ok (a, rest)) :
    ∃ b, writeSigners a.signers = .ok b ∧
      s = writeUInt16 Marker.aggregateKind ++ (a.signature.toBytes ++ (b ++ rest)) := by
  obtain ⟨marker, _, hmarker, h⟩ := run_bind_eq_ok_iff.mp h
  split at h
  · next hkind =>
    obtain ⟨signature, _, hsig, h⟩ := run_bind_eq_ok_iff.mp h
    obtain ⟨signers, _, hsigners, h⟩ := run_bind_eq_ok_iff.mp h
    obtain ⟨rfl, rfl⟩ := Prod.mk.inj (Except.ok.inj h)
    obtain ⟨b, hb, rfl⟩ := exists_writeSigners hsigners
    obtain rfl := eq_of_readSignature hsig
    obtain rfl := eq_of_readUInt16 hmarker
    exact ⟨b, hb, by rw [hkind]⟩
  · exact absurd h (run_throw_ne_ok _ _ _)

theorem spelled_signatures {sigs : Signatures} {s rest : Bytes}
    (h : readSignatures.run s = .ok (sigs, rest)) :
    Spelled (writeSignatures sigs) [] s rest := by
  obtain ⟨count, _, hcount, h⟩ := run_bind_eq_ok_iff.mp h
  split at h
  · next hmarker =>
    obtain ⟨a, _, ha, h⟩ := run_bind_eq_ok_iff.mp h
    obtain ⟨rfl, rfl⟩ := Prod.mk.inj (Except.ok.inj h)
    obtain ⟨b, hb, rfl⟩ := exists_writeAggregated ha
    obtain rfl := eq_of_readUInt16 hcount
    rw [hmarker]
    refine ⟨_, ?_, (((SpelledAs.same ..).append (.same ..)).append (.same ..)).append (.same ..)⟩
    simp only [writeSignatures, hb]
    rfl
  · next hmarker =>
    obtain ⟨groups, _, hgroups, h⟩ := run_bind_eq_ok_iff.mp h
    obtain ⟨rfl, rfl⟩ := Prod.mk.inj (Except.ok.inj h)
    obtain ⟨hlen, heach⟩ := readEach_of_readAll hgroups
    obtain rfl := eq_of_readUInt16 hcount
    obtain ⟨b, hb, hspelled⟩ := heach.spelled fun h => spelled_of_exists (exists_writeGroup h)
    have hlt : groups.length < Marker.aggregate.toNat := by
      have hle : count.toNat ≤ Marker.aggregate.toNat := Nat.le_of_lt_succ count.toNat_lt
      have hne : count.toNat ≠ Marker.aggregate.toNat := fun he =>
        hmarker (UInt16.toNat_inj.mp he)
      omega
    have hnone : groups.flatMap (fun _ => ([] : List Amount)) = [] := by simp
    rw [hnone] at hspelled
    refine ⟨_, ?_, (SpelledAs.same ..).append hspelled⟩
    rw [writeSignatures, if_pos hlt, hlen, hb]
    rfl

/-! ## Transactions -/

theorem exists_writeReferences {version : UInt8} {refs : List Hash} {s rest : Bytes}
    (h : (readReferences version).run s = .ok (refs, rest)) :
    ∃ b, writeReferences version refs = .ok b ∧ s = b ++ rest := by
  rw [readReferences] at h
  rw [writeReferences]
  split at h
  · next hv =>
    obtain ⟨count, _, hcount, rfl, heach⟩ := readEach_of_readList "references" h
    obtain rfl := heach.eq_flatMap eq_of_readHash
    refine ⟨count ++ refs.flatMap Hash.toBytes, ?_, (List.append_assoc ..).symm⟩
    rw [if_pos hv, hcount]
    rfl
  · next hv =>
    obtain ⟨rfl, rfl⟩ := Prod.mk.inj (Except.ok.inj h)
    exact ⟨[], if_neg hv, rfl⟩

theorem exists_writeExtra {version : UInt8} {extra s rest : Bytes}
    (h : (readExtra version).run s = .ok (extra, rest)) :
    extra.length ≤ Limit.storageCapacity ∧
      ∃ b, writeExtra version extra = .ok b ∧ s = b ++ rest := by
  obtain ⟨length, _, hlength, h⟩ := run_bind_eq_ok_iff.mp h
  split at h
  · next hle =>
    obtain ⟨rfl, rfl⟩ := eq_of_take h
    refine ⟨hle, ?_⟩
    rw [writeExtra]
    split
    · next hv =>
      rw [if_pos hv] at hlength
      obtain ⟨hlt, rfl⟩ := eq_of_readNat hlength
      exact ⟨_, if_pos hlt, (List.append_assoc ..).symm⟩
    · next hv =>
      rw [if_neg hv] at hlength
      obtain ⟨count, hcount, rfl⟩ := exists_writeCount "extra" hlength
      refine ⟨count ++ extra, ?_, (List.append_assoc ..).symm⟩
      rw [writeBytes, hcount]
      rfl
  · exact absurd h (run_throw_ne_ok _ _ _)

theorem spelled_body {version : UInt8} {tx : Transaction} {s rest : Bytes}
    (h : (readBody version).run s = .ok (tx, rest)) : Spelled (writeBody tx) tx.amounts s rest := by
  obtain ⟨asset, _, hasset, h⟩ := run_bind_eq_ok_iff.mp h
  obtain ⟨inputs, _, hinputs, h⟩ := run_bind_eq_ok_iff.mp h
  obtain ⟨outputs, _, houtputs, h⟩ := run_bind_eq_ok_iff.mp h
  obtain ⟨references, _, hrefs, h⟩ := run_bind_eq_ok_iff.mp h
  obtain ⟨extra, _, hextra, h⟩ := run_bind_eq_ok_iff.mp h
  obtain ⟨signatures, _, hsigs, h⟩ := run_bind_eq_ok_iff.mp h
  obtain ⟨rfl, rfl⟩ := Prod.mk.inj (Except.ok.inj h)
  obtain rfl := eq_of_readHash hasset
  obtain ⟨count, _, hwcount, rfl, heach⟩ := readEach_of_readList "inputs" hinputs
  obtain ⟨_, hwinputs, hspelled⟩ := heach.spelled spelled_input
  obtain ⟨_, _, hwcount', rfl, heach'⟩ := readEach_of_readList "outputs" houtputs
  obtain ⟨_, hwoutputs, hspelled'⟩ := heach'.spelled spelled_output
  obtain ⟨_, hwrefs, rfl⟩ := exists_writeReferences hrefs
  obtain ⟨_, _, hwextra, rfl⟩ := exists_writeExtra hextra
  obtain ⟨_, hwsigs, hsigs⟩ := spelled_signatures hsigs
  have hbody := (((((((SpelledAs.same asset.toBytes _).append (.same count _)).append
    hspelled).append (.same _ _)).append hspelled').append (.same _ _)).append (.same _ _)).append
    hsigs
  simp only [List.nil_append, List.append_nil, ← List.map_eq_flatMap] at hbody
  refine ⟨_, ?_, hbody⟩
  simp only [writeBody, hwcount, hwinputs, hwcount', hwoutputs, hwrefs, hwextra, hwsigs]
  rfl

/-- What is read of a body leaves nothing out that is written of it. -/
theorem onWire_of_readBody {version : UInt8} {tx : Transaction} {s rest : Bytes}
    (h : (readBody version).run s = .ok (tx, rest)) :
    tx.version = version ∧ tx.onWire = tx ∧ tx.extra.length ≤ Limit.storageCapacity := by
  obtain ⟨asset, _, _, h⟩ := run_bind_eq_ok_iff.mp h
  obtain ⟨inputs, _, _, h⟩ := run_bind_eq_ok_iff.mp h
  obtain ⟨outputs, _, houtputs, h⟩ := run_bind_eq_ok_iff.mp h
  obtain ⟨references, _, hrefs, h⟩ := run_bind_eq_ok_iff.mp h
  obtain ⟨extra, _, hextra, h⟩ := run_bind_eq_ok_iff.mp h
  obtain ⟨signatures, _, _, h⟩ := run_bind_eq_ok_iff.mp h
  obtain ⟨rfl, rfl⟩ := Prod.mk.inj (Except.ok.inj h)
  refine ⟨rfl, ?_, (exists_writeExtra hextra).1⟩
  obtain ⟨_, _, _, _, heach⟩ := readEach_of_readList "outputs" houtputs
  have houts : outputs.map (Output.onWire version) = outputs :=
    (List.map_congr_left (heach.forall_mem onWire_of_readOutput)).trans outputs.map_id
  have hrefs : (if Version.references ≤ version then references else []) = references := by
    rw [readReferences] at hrefs
    split
    · rfl
    · next hv =>
      rw [if_neg hv] at hrefs
      exact (Prod.mk.inj (Except.ok.inj hrefs)).1
  rw [Transaction.onWire, houts, hrefs]

theorem of_read_eq_ok {version : UInt8} {body : Bytes} {tx : Transaction}
    (h : read version body = .ok tx) :
    Version.isBinary version ∧ (readBody version).run body = .ok (tx, []) := by
  rw [read] at h
  split at h
  · next hv =>
    split at h
    · exact absurd h (by simp)
    · next htx =>
      obtain rfl := Except.ok.inj h
      exact ⟨hv, htx⟩
    · exact absurd h (by simp)
  · exact absurd h (by simp)

end Wire

namespace Transaction

/-- What is read behind a header can be written again, and it was read from what is written with
zeros in front of amounts and from nothing else. -/
theorem encode_of_decode_header {version : UInt8} {body : Bytes} {tx : Transaction}
    (h : decode (Wire.header version ++ body) = .ok tx) :
    ∃ b, tx.encode = .ok b ∧ decode b = .ok tx ∧
      Wire.Respelled tx.amounts b (Wire.header version ++ body) ∧
      b.length ≤ (Wire.header version ++ body).length ∧
      (b.length = (Wire.header version ++ body).length → b = Wire.header version ++ body) := by
  rw [decode, Wire.splitHeader?_header] at h
  obtain ⟨hv, hbody⟩ := Wire.of_read_eq_ok h
  obtain ⟨rfl, hwire, hle⟩ := Wire.onWire_of_readBody hbody
  obtain ⟨b, hb, front, hfront, hr⟩ := Wire.spelled_body hbody
  rw [List.append_nil] at hfront
  obtain rfl := hfront
  have hr : Wire.Respelled tx.amounts (Wire.header tx.version ++ b)
      (Wire.header tx.version ++ body) := hr.same _
  refine ⟨Wire.header tx.version ++ b, ?_, ?_, hr, hr.length_le, hr.eq_of_length_eq⟩
  · rw [encode_of_isBinary hv]
    exact Wire.write_eq_ok_iff.mpr ⟨hv, b, hb, rfl⟩
  · rw [decode_header_append hv hle hb, hwire]

/-- The body of `signedWithdrawal` with four zeros more in its three amounts. -/
def paddedWithdrawal : Bytes :=
  Hash.zero.toBytes ++ [0, 1] ++ Hash.zero.toBytes ++ [0, 255, 0, 1, 9] ++
    Marker.present ++ Hash.zero.toBytes ++ [0, 1, 97, 0, 0] ++ Wire.writeUInt64 5 ++
    [0, 2, 0, 5] ++ Marker.present ++ [0, 0] ++ Wire.writeUInt64 5 ++ [0, 1, 0] ++
    [0, 1, 0, 161, 0, 3, 0, 0, 7, 0, 0] ++ Key.zero.toBytes ++ [0, 0] ++
    Marker.present ++ [0, 2, 116, 111, 0, 0] ++ [0, 1] ++ Hash.zero.toBytes ++
    [0, 0, 0, 2, 9, 9] ++ [255, 255, 255, 1] ++ List.replicate 64 8 ++ [1, 0, 1, 1, 0]

theorem encode_of_decode_paddedWithdrawal :
    decode (Wire.header 5 ++ paddedWithdrawal) = .ok signedWithdrawal.onWire ∧
      ∃ b, signedWithdrawal.onWire.encode = .ok b ∧ decode b = .ok signedWithdrawal.onWire ∧
        Wire.Respelled signedWithdrawal.onWire.amounts b (Wire.header 5 ++ paddedWithdrawal) ∧
        b.length ≤ (Wire.header 5 ++ paddedWithdrawal).length ∧
        (b.length = (Wire.header 5 ++ paddedWithdrawal).length →
          b = Wire.header 5 ++ paddedWithdrawal) := by
  have h : decode (Wire.header 5 ++ paddedWithdrawal) = .ok signedWithdrawal.onWire := by
    decide +kernel
  exact ⟨h, encode_of_decode_header h⟩

end Transaction

end KernelWallet
