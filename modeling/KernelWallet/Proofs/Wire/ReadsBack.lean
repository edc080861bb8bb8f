import KernelWallet.Proofs.Wire.Field
import KernelWallet.Transaction.Encoding

/-! Reading a transaction in the big-endian form gives back what was written, less the parts that
its version leaves out. -/

namespace KernelWallet

/-- What is written of a withdrawal. -/
def Withdrawal.onWire (version : UInt8) (w : Withdrawal) : Withdrawal :=
  if version < Version.shortWithdrawals then w else { w with chain := Hash.zero, assetKey := "" }

def Output.onWire (version : UInt8) (o : Output) : Output :=
  { o with withdrawal := o.withdrawal.map (Withdrawal.onWire version) }

/-- What is written of a transaction: no references before there are any, and short withdrawals
from the version that has them. -/
def Transaction.onWire (tx : Transaction) : Transaction :=
  { tx with
    outputs := tx.outputs.map (Output.onWire tx.version)
    references := if Version.references ≤ tx.version then tx.references else [] }

namespace Wire

theorem writeUInt16_toUInt16 (n : UInt8) : writeUInt16 n.toUInt16 = [0, n] := by
  have hn := n.toNat_lt
  have hdiv : n.toNat / 256 = 0 := by omega
  simp [writeUInt16, Bytes.ofNatBE, Bytes.ofNatLE, hdiv]

/-! ## Inputs -/

theorem reads_deposit {d : Deposit} {b : Bytes} (h : writeDeposit d = .ok b) :
    Reads readDeposit b d := by
  obtain ⟨assetKey, hkey, h⟩ := bind_eq_ok_iff.mp h
  obtain ⟨transaction, htx, h⟩ := bind_eq_ok_iff.mp h
  obtain ⟨amount, hamount, h⟩ := bind_eq_ok_iff.mp h
  obtain rfl := Except.ok.inj h
  simp only [List.append_assoc]
  refine (reads_hash d.chain).bind ?_
  refine (reads_text hkey).bind ?_
  refine (reads_text htx).bind ?_
  refine (reads_uint64 d.index).bind ?_
  exact (reads_amount hamount).bind_pure _

theorem reads_mint {m : Mint} {b : Bytes} (h : writeMint m = .ok b) : Reads readMint b m := by
  obtain ⟨group, hgroup, h⟩ := bind_eq_ok_iff.mp h
  obtain ⟨amount, hamount, h⟩ := bind_eq_ok_iff.mp h
  obtain rfl := Except.ok.inj h
  simp only [List.append_assoc]
  refine (reads_text hgroup).bind ?_
  refine (reads_uint64 m.batch).bind ?_
  exact (reads_amount hamount).bind_pure _

theorem reads_index (i : UInt8) : Reads readIndex (writeUInt16 i.toUInt16) i := by
  intro rest
  have hi : i.toUInt16.toNat < 256 ^ 2 := i.toUInt16.toNat_lt.trans_le (by decide)
  rw [readIndex, StateT.run_bind, writeUInt16, reads_nat hi rest, pure_bind, UInt8.toNat_toUInt16,
    if_pos i.toNat_lt, UInt8.ofNat_toNat]
  rfl

theorem reads_input {i : Input} {b : Bytes} (h : writeInput i = .ok b) : Reads readInput b i := by
  obtain ⟨genesis, hgenesis, h⟩ := bind_eq_ok_iff.mp h
  obtain ⟨deposit, hdeposit, h⟩ := bind_eq_ok_iff.mp h
  obtain ⟨mint, hmint, h⟩ := bind_eq_ok_iff.mp h
  obtain rfl := Except.ok.inj h
  have hd := reads_option (f := id) reads_deposit hdeposit
  have hm := reads_option (f := id) reads_mint hmint
  rw [Option.map_id, id] at hd hm
  simp only [List.append_assoc]
  refine (reads_hash i.hash).bind ?_
  refine (reads_index i.index).bind ?_
  refine (reads_bytes hgenesis).bind ?_
  refine hd.bind ?_
  exact hm.bind_pure _

/-! ## Outputs -/

theorem reads_kind (k : OutputType) : Reads readKind [0, k.toByte] k := by
  intro rest
  have hlt : k.toByte.toUInt16 < 256 := by
    rw [UInt16.lt_iff_toNat_lt, UInt8.toNat_toUInt16]
    exact k.toByte.toNat_lt
  rw [readKind, StateT.run_bind, ← writeUInt16_toUInt16, reads_uint16 _ rest, pure_bind,
    if_pos hlt, UInt8.toUInt8_toUInt16, OutputType.ofByte?_toByte]
  rfl

theorem reads_source {version : UInt8} {w : Withdrawal} {b : Bytes}
    (h : writeSource version w = .ok b) :
    Reads (readSource version) b ((w.onWire version).chain, (w.onWire version).assetKey) := by
  rw [writeSource] at h
  rw [readSource, Withdrawal.onWire]
  split at h
  · next hv =>
    obtain ⟨assetKey, hkey, h⟩ := bind_eq_ok_iff.mp h
    obtain rfl := Except.ok.inj h
    rw [if_pos hv, if_pos hv]
    exact (reads_hash w.chain).bind ((reads_text hkey).bind_pure _)
  · next hv =>
    obtain rfl := Except.ok.inj h
    rw [if_neg hv, if_neg hv]
    exact Reads.pure _

theorem reads_withdrawal {version : UInt8} {w : Withdrawal} {b : Bytes}
    (h : writeWithdrawal version w = .ok b) :
    Reads (readWithdrawal version) b (w.onWire version) := by
  obtain ⟨source, hsource, h⟩ := bind_eq_ok_iff.mp h
  obtain ⟨address, haddress, h⟩ := bind_eq_ok_iff.mp h
  obtain ⟨tag, htag, h⟩ := bind_eq_ok_iff.mp h
  obtain rfl := Except.ok.inj h
  have hrest : w.onWire version = { w.onWire version with address := w.address, tag := w.tag } := by
    rw [Withdrawal.onWire]
    split <;> rfl
  rw [hrest, List.append_assoc]
  refine (reads_source hsource).bind ?_
  refine (reads_text haddress).bind ?_
  exact (reads_text htag).bind_pure _

theorem reads_output {version : UInt8} {o : Output} {b : Bytes}
    (h : writeOutput version o = .ok b) : Reads (readOutput version) b (o.onWire version) := by
  obtain ⟨amount, hamount, h⟩ := bind_eq_ok_iff.mp h
  obtain ⟨count, hcount, h⟩ := bind_eq_ok_iff.mp h
  obtain ⟨script, hscript, h⟩ := bind_eq_ok_iff.mp h
  obtain ⟨withdrawal, hwithdrawal, h⟩ := bind_eq_ok_iff.mp h
  obtain rfl := Except.ok.inj h
  have hkeys : Reads (readList readKey) (count ++ o.keys.flatMap Key.toBytes) o.keys :=
    (reads_count hcount).bind (reads_flatMap reads_key o.keys)
  simp only [List.append_assoc]
  refine (reads_kind o.kind).bind ?_
  refine (reads_amount hamount).bind ?_
  rw [← List.append_assoc count]
  refine hkeys.bind ?_
  refine (reads_key o.mask).bind ?_
  refine (reads_bytes hscript).bind ?_
  exact (reads_option reads_withdrawal hwithdrawal).bind_pure _

/-! ## Signatures -/

theorem reads_checkAscending {signer : UInt16} {last : Option UInt16}
    (h : ∀ l ∈ last, l < signer) : Reads (checkAscending signer last) [] () := by
  cases last with
  | none => exact Reads.pure ()
  | some l =>
    have hlt : ¬ signer ≤ l := UInt16.not_le.mpr (h l rfl)
    rw [checkAscending, if_neg hlt]
    exact Reads.pure ()

section

variable {α : Type} {signerOf : α → UInt16} {read : UInt16 → Reader α} {write : α → Bytes}

theorem reads_ascendingFrom (hread : ∀ a, Reads (read (signerOf a)) (write a) a) {l : List α}
    (done : List α) (h : (done.reverse ++ l).Pairwise fun a b => signerOf a < signerOf b) :
    Reads (readAscendingFrom signerOf read l.length done)
      (l.flatMap fun a => writeUInt16 (signerOf a) ++ write a) (done.reverse ++ l) := by
  induction l generalizing done with
  | nil =>
    rw [List.append_nil]
    exact Reads.pure done.reverse
  | cons a l ih =>
    have hlast : ∀ last ∈ done.head?.map signerOf, last < signerOf a := by
      intro last hlast
      obtain ⟨x, hx, rfl⟩ := Option.mem_map.mp hlast
      have hmem : x ∈ done.reverse := List.mem_reverse.mpr (List.mem_of_head? hx)
      exact (List.pairwise_append.mp h).2.2 x hmem a (by simp)
    have htail := ih (a :: done) (by simpa using h)
    rw [List.reverse_cons, List.append_assoc, List.singleton_append] at htail
    rw [List.flatMap_cons, List.append_assoc]
    refine (reads_uint16 (signerOf a)).bind ?_
    refine (reads_checkAscending hlast).bind_nil ?_
    exact (hread a).bind htail

theorem reads_ascending (hread : ∀ a, Reads (read (signerOf a)) (write a) a) {field : String}
    {l : List α} {count : Bytes} (h : l.Pairwise fun a b => signerOf a < signerOf b)
    (hcount : writeCount field l.length = .ok count) :
    Reads (readAscending signerOf read)
      (count ++ l.flatMap fun a => writeUInt16 (signerOf a) ++ write a) l :=
  (reads_count hcount).bind (reads_ascendingFrom hread [] h)

end

theorem reads_group {g : SignerMap} {b : Bytes} (h : writeGroup g = .ok b) :
    Reads readGroup b g := by
  obtain ⟨count, hcount, h⟩ := bind_eq_ok_iff.mp h
  obtain rfl := Except.ok.inj h
  have hentries : Reads (readAscending Prod.fst fun signer => do return (signer, ← readSignature))
      (count ++ g.entries.flatMap fun e => writeUInt16 e.1 ++ e.2.toBytes) g.entries :=
    reads_ascending (fun e => (reads_signature e.2).bind_pure _) g.ascending hcount
  have hread := hentries.bind_pure SignerMap.ofList
  rwa [SignerMap.ofList_entries] at hread

theorem reads_signerList {field : String} {s : SignerSet} {count : Bytes}
    (hcount : writeCount field s.toList.length = .ok count) :
    Reads (readAscending id pure) (count ++ s.toList.flatMap writeUInt16) s.toList := by
  have hread : Reads (readAscending id pure)
      (count ++ s.toList.flatMap fun signer => writeUInt16 signer ++ []) s.toList :=
    reads_ascending Reads.pure s.ascending hcount
  simpa only [List.append_nil] using hread

theorem reads_bitmap {field : String} {s : SignerSet} {b : Bytes}
    (h : writeBytes field s.bitmap = .ok b) : Reads readBitmap b s.toList := by
  intro rest
  have hlen : ¬ maxBitmapLength < s.bitmap.length := by
    rw [SignerSet.length_bitmap]
    exact Nat.not_lt.mpr s.bitmapLength_le
  rw [readBitmap, StateT.run_bind, reads_bytes h rest, pure_bind, if_neg hlen,
    if_neg s.getLast?_bitmap_ne, SignerSet.listOfBitmap_bitmap]
  rfl

theorem reads_signers {s : SignerSet} {b : Bytes} (h : writeSigners s = .ok b) :
    Reads readSigners b s := by
  -- the writer's choice of layout is the one that the reader checks for
  have hmode : ∀ {mode : UInt8} {c : Bytes}, s.isSparse = (mode == Marker.list) →
      Reads (readLayout mode) c s.toList → Reads readSigners ([mode] ++ c) s := by
    intro mode c hsparse hread
    refine (reads_uint8 mode).bind ?_
    intro rest
    rw [StateT.run_bind, hread rest, pure_bind, SignerSet.ofList_toList, if_pos hsparse]
    rfl
  rw [writeSigners] at h
  split at h
  · next hsparse =>
    obtain ⟨count, hcount, h⟩ := bind_eq_ok_iff.mp h
    obtain rfl := Except.ok.inj h
    rw [List.append_assoc]
    refine hmode (by rw [hsparse]; rfl) ?_
    rw [readLayout, if_pos rfl]
    exact reads_signerList hcount
  · next hsparse =>
    obtain ⟨bitmap, hbitmap, h⟩ := bind_eq_ok_iff.mp h
    obtain rfl := Except.ok.inj h
    refine hmode (by rw [Bool.eq_false_iff.mpr hsparse]; rfl) ?_
    rw [readLayout, if_neg (by decide), if_pos rfl]
    exact reads_bitmap hbitmap

theorem reads_aggregated {a : AggregatedSignature} {b : Bytes}
    (h : writeSigners a.signers = .ok b) :
    Reads readAggregated (writeUInt16 Marker.aggregateKind ++ (a.signature.toBytes ++ b)) a := by
  refine (reads_uint16 Marker.aggregateKind).bind ?_
  rw [if_pos rfl]
  refine (reads_signature a.signature).bind ?_
  exact (reads_signers h).bind_pure _

theorem reads_signatures {s : Signatures} {b : Bytes} (h : writeSignatures s = .ok b) :
    Reads readSignatures b s := by
  cases s with
  | groups gs =>
    rw [writeSignatures] at h
    split at h
    · next hlen =>
      obtain ⟨groups, hgroups, h⟩ := bind_eq_ok_iff.mp h
      obtain rfl := Except.ok.inj h
      have hn : gs.length < 2 ^ 16 := hlen.trans (by decide)
      have hcount : Reads readUInt16 (Bytes.ofNatBE 2 gs.length) (UInt16.ofNat gs.length) :=
        (reads_nat hn).bind_pure UInt16.ofNat
      have hnat : (UInt16.ofNat gs.length).toNat = gs.length := by
        rw [UInt16.toNat_ofNat', Nat.mod_eq_of_lt hn]
      have hne : UInt16.ofNat gs.length ≠ Marker.aggregate := by
        intro he
        rw [← he, hnat] at hlen
        exact Nat.lt_irrefl _ hlen
      have hall := reads_all (f := id) reads_group hgroups
      rw [List.map_id] at hall
      refine hcount.bind ?_
      rw [if_neg hne, hnat]
      exact hall.bind_pure Signatures.groups
    · exact absurd h (by simp)
  | aggregated a =>
    obtain ⟨signers, hsigners, h⟩ := bind_eq_ok_iff.mp h
    obtain rfl := Except.ok.inj h
    simp only [List.append_assoc]
    refine (reads_uint16 Marker.aggregate).bind ?_
    rw [if_pos rfl]
    exact (reads_aggregated hsigners).bind_pure Signatures.aggregated

/-! ## Transactions -/

theorem reads_references {version : UInt8} {refs : List Hash} {b : Bytes}
    (h : writeReferences version refs = .ok b) :
    Reads (readReferences version) b (if Version.references ≤ version then refs else []) := by
  rw [writeReferences] at h
  rw [readReferences]
  split at h
  · next hv =>
    obtain ⟨count, hcount, h⟩ := bind_eq_ok_iff.mp h
    obtain rfl := Except.ok.inj h
    rw [if_pos hv, if_pos hv]
    exact (reads_count hcount).bind (reads_flatMap reads_hash refs)
  · next hv =>
    obtain rfl := Except.ok.inj h
    rw [if_neg hv, if_neg hv]
    exact Reads.pure []

theorem reads_extra {version : UInt8} {extra b : Bytes}
    (hle : extra.length ≤ Limit.storageCapacity) (h : writeExtra version extra = .ok b) :
    Reads (readExtra version) b extra := by
  have hread : ∀ {width : Nat} {count : Bytes}, Reads (readNat width) count extra.length →
      Reads (do
        let length ← readNat width
        if length ≤ Limit.storageCapacity then take length
        else throw (.extraTooLarge length)) (count ++ extra) extra := by
    intro width count hcount
    refine hcount.bind ?_
    rw [if_pos hle]
    exact reads_take extra
  rw [writeExtra] at h
  rw [readExtra]
  split at h
  · next hv =>
    split at h
    · next hlen =>
      obtain rfl := Except.ok.inj h
      rw [if_pos hv]
      exact hread (reads_nat hlen)
    · exact absurd h (by simp)
  · next hv =>
    obtain ⟨count, hcount, h⟩ := bind_eq_ok_iff.mp h
    obtain rfl := Except.ok.inj h
    rw [if_neg hv]
    exact hread (reads_count hcount)

/-- The parts of a body, all but the last two with the reader that takes them off. -/
theorem exists_parts {tx : Transaction} {b : Bytes} (h : writeBody tx = .ok b) :
    ∃ inputs outputs references extra signatures,
      b = tx.asset.toBytes ++ (inputs ++ (outputs ++ (references ++ (extra ++ signatures)))) ∧
      Reads (readList readInput) inputs tx.inputs ∧
      Reads (readList (readOutput tx.version)) outputs (tx.outputs.map (Output.onWire tx.version)) ∧
      Reads (readReferences tx.version) references tx.onWire.references ∧
      writeExtra tx.version tx.extra = .ok extra ∧
      writeSignatures tx.signatures = .ok signatures := by
  obtain ⟨inputCount, hic, h⟩ := bind_eq_ok_iff.mp h
  obtain ⟨inputs, hinputs, h⟩ := bind_eq_ok_iff.mp h
  obtain ⟨outputCount, hoc, h⟩ := bind_eq_ok_iff.mp h
  obtain ⟨outputs, houtputs, h⟩ := bind_eq_ok_iff.mp h
  obtain ⟨references, hrefs, h⟩ := bind_eq_ok_iff.mp h
  obtain ⟨extra, hextra, h⟩ := bind_eq_ok_iff.mp h
  obtain ⟨signatures, hsigs, h⟩ := bind_eq_ok_iff.mp h
  obtain rfl := Except.ok.inj h
  have hins := reads_list (f := id) reads_input hic hinputs
  have houts := reads_list reads_output hoc houtputs
  rw [List.map_id] at hins
  refine ⟨inputCount ++ inputs, outputCount ++ outputs, references, extra, signatures, ?_, hins,
    houts, reads_references hrefs, hextra, hsigs⟩
  simp only [List.append_assoc]

theorem reads_body {tx : Transaction} {b : Bytes}
    (hle : tx.extra.length ≤ Limit.storageCapacity) (h : writeBody tx = .ok b) :
    Reads (readBody tx.version) b tx.onWire := by
  obtain ⟨inputs, outputs, references, extra, signatures, rfl, hins, houts, hrefs, hextra, hsigs⟩ :=
    exists_parts h
  refine (reads_hash tx.asset).bind ?_
  refine hins.bind ?_
  refine houts.bind ?_
  refine hrefs.bind ?_
  refine (reads_extra hle hextra).bind ?_
  exact (reads_signatures hsigs).bind_pure _

theorem splitHeader?_header (version : UInt8) (body : Bytes) :
    splitHeader? (header version ++ body) = some (version, body) :=
  rfl

theorem read_of_reads {version : UInt8} {body : Bytes} {tx : Transaction}
    (hv : Version.isBinary version) (h : Reads (readBody version) body tx) :
    read version body = .ok tx := by
  have hrun := h []
  rw [List.append_nil] at hrun
  rw [read, if_pos hv, hrun]
  rfl

theorem write_eq_ok_iff {tx : Transaction} {b : Bytes} :
    write tx = .ok b ↔
      Version.isBinary tx.version ∧
        ∃ body, writeBody tx = .ok body ∧ b = header tx.version ++ body := by
  rw [write]
  split
  · next hv =>
    rw [bind_eq_ok_iff]
    constructor
    · rintro ⟨body, hbody, hb⟩
      exact ⟨hv, body, hbody, (Except.ok.inj hb).symm⟩
    · rintro ⟨_, body, hbody, rfl⟩
      exact ⟨body, hbody, rfl⟩
  · next hv => simp [hv]

end Wire

theorem Version.not_lt_binary_of_isBinary {v : UInt8} (h : isBinary v) : ¬ v < binary := by
  rw [isBinary, Bool.and_eq_true, decide_eq_true_eq] at h
  exact UInt8.not_lt.mpr h.1

namespace Transaction

theorem encode_of_isBinary {tx : Transaction} (h : Version.isBinary tx.version) :
    tx.encode = Wire.write tx := by
  rw [encode, if_neg (Version.not_lt_binary_of_isBinary h)]

theorem decode_header_append {tx : Transaction} {body : Bytes} (hv : Version.isBinary tx.version)
    (hle : tx.extra.length ≤ Limit.storageCapacity) (h : Wire.writeBody tx = .ok body) :
    decode (Wire.header tx.version ++ body) = .ok tx.onWire := by
  rw [decode, Wire.splitHeader?_header]
  exact Wire.read_of_reads hv (Wire.reads_body hle h)

/-- Reading what was written of a transaction gives what its version writes of it. -/
theorem decode_encode {tx : Transaction} {b : Bytes} (hv : Version.isBinary tx.version)
    (hle : tx.extra.length ≤ Limit.storageCapacity) (h : tx.encode = .ok b) :
    decode b = .ok tx.onWire := by
  rw [encode_of_isBinary hv] at h
  obtain ⟨_, body, hbody, rfl⟩ := Wire.write_eq_ok_iff.mp h
  exact decode_header_append hv hle hbody

/-- A withdrawal in the version that does not write where it comes from, out of a deposit and new
supply, signed for all by the signer in the list layout. -/
def signedWithdrawal : Transaction where
  version := 5
  asset := Hash.zero
  inputs := [
    { hash := Hash.zero, index := 255, genesis := [9]
      deposit := some ⟨Hash.zero, "a", "", 5, Amount.ofUInt64 5⟩
      mint := some ⟨"", 5, Amount.zero⟩ }]
  outputs := [Output.ofWithdrawal (Amount.ofUInt64 7) ⟨Hash.zero, "k", "to", ""⟩]
  references := [Hash.zero]
  extra := [9, 9]
  signatures := .aggregated ⟨⟨Vector.replicate 64 8⟩, ⟨[256], by decide⟩⟩

theorem decode_encode_signedWithdrawal :
    Version.isBinary signedWithdrawal.version ∧
      signedWithdrawal.extra.length ≤ Limit.storageCapacity ∧
      ∃ b, signedWithdrawal.encode = .ok b ∧ decode b = .ok signedWithdrawal.onWire :=
  ⟨by decide, by decide, _, rfl, decode_encode (by decide) (by decide) rfl⟩

end Transaction

end KernelWallet
