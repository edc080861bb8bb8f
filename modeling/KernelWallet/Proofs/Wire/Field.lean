import KernelWallet.Proofs.Amount.Bytes
import KernelWallet.Proofs.Signers
import KernelWallet.Transaction.Wire.Reader

/-! The parts of the big-endian form that are below its records: each reader reads back what the
writer of the same part wrote. -/

namespace KernelWallet.Wire

variable {α : Type}

theorem run_take (n : Nat) (b : Bytes) :
    (take n).run b = if (b.take n).length = n then .ok (b.take n, b.drop n)
      else .error (.unexpectedEof (n - (b.take n).length)) := by
  simp only [take, StateT.run, List.splitAt_eq]

theorem run_takeVector (n : Nat) (b : Bytes) :
    (takeVector n).run b = match Bytes.toVector? n (b.take n) with
      | some v => .ok (v, b.drop n)
      | none => .error (.unexpectedEof (n - (b.take n).length)) := by
  cases h : Bytes.toVector? n (b.take n) <;> simp only [takeVector, StateT.run, List.splitAt_eq, h]

theorem reads_take (b : Bytes) : Reads (take b.length) b b := by
  intro rest
  rw [run_take, List.take_left' rfl, List.drop_left' rfl, if_pos rfl]
  rfl

theorem reads_takeVector {n : Nat} (v : Vector UInt8 n) : Reads (takeVector n) v.toList v := by
  intro rest
  rw [run_takeVector, List.take_left' v.length_toList, List.drop_left' v.length_toList,
    Bytes.toVector?_toList]
  rfl

theorem reads_nat {width n : Nat} (h : n < 256 ^ width) :
    Reads (readNat width) (Bytes.ofNatBE width n) n :=
  reads_natBE reads_take h

theorem reads_uint8 (n : UInt8) : Reads readUInt8 [n] n := by
  have hlt : n.toNat < 256 ^ 1 := n.toNat_lt.trans_le (by decide)
  have hread := (reads_nat hlt).bind_pure UInt8.ofNat
  have hbytes : Bytes.ofNatBE 1 n.toNat = [n] := by simp [Bytes.ofNatBE, Bytes.ofNatLE]
  rwa [UInt8.ofNat_toNat, hbytes] at hread

theorem reads_uint16 (n : UInt16) : Reads readUInt16 (writeUInt16 n) n := by
  have hlt : n.toNat < 256 ^ 2 := n.toNat_lt.trans_le (by decide)
  have hread := (reads_nat hlt).bind_pure UInt16.ofNat
  rwa [UInt16.ofNat_toNat] at hread

theorem reads_uint64 (n : UInt64) : Reads readUInt64 (writeUInt64 n) n := by
  have hlt : n.toNat < 256 ^ 8 := n.toNat_lt.trans_le (by decide)
  have hread := (reads_nat hlt).bind_pure UInt64.ofNat
  rwa [UInt64.ofNat_toNat] at hread

theorem reads_hash (h : Hash) : Reads readHash h.toBytes h :=
  (reads_takeVector h.bytes).bind_pure Hash.mk

theorem reads_key (k : Key) : Reads readKey k.toBytes k :=
  (reads_takeVector k.bytes).bind_pure Key.mk

theorem reads_signature (s : Signature) : Reads readSignature s.toBytes s :=
  (reads_takeVector s.bytes).bind_pure Signature.mk

/-! ## Byte strings behind their length -/

theorem writeCount_eq_ok_iff {field : String} {n : Nat} {b : Bytes} :
    writeCount field n = .ok b ↔ n < 2 ^ 16 ∧ b = Bytes.ofNatBE 2 n := by
  rw [writeCount]
  split
  · next h => exact ⟨fun hb => ⟨h, (Except.ok.inj hb).symm⟩, fun hb => by rw [hb.2]⟩
  · next h => exact ⟨fun hb => absurd hb (by simp), fun hb => absurd hb.1 h⟩

theorem reads_count {field : String} {n : Nat} {b : Bytes} (h : writeCount field n = .ok b) :
    Reads (readNat 2) b n := by
  obtain ⟨hn, rfl⟩ := writeCount_eq_ok_iff.mp h
  exact reads_nat hn

theorem reads_bytes {field : String} {bytes b : Bytes} (h : writeBytes field bytes = .ok b) :
    Reads readBytes b bytes := by
  obtain ⟨count, hcount, h⟩ := bind_eq_ok_iff.mp h
  obtain rfl := Except.ok.inj h
  exact (reads_count hcount).bind (reads_take bytes)

theorem reads_text {field s : String} {b : Bytes} (h : writeText field s = .ok b) :
    Reads readText b s := by
  intro rest
  rw [readText, StateT.run_bind, reads_bytes h rest, pure_bind, Bytes.toText?_ofText]
  rfl

theorem reads_amount {a : Amount} {b : Bytes} (h : writeAmount a = .ok b) :
    Reads readAmount b a := by
  intro rest
  rw [readAmount, StateT.run_bind, reads_bytes h rest, pure_bind, Amount.ofBytes_toBytes]
  rfl

/-! ## Lists and optional parts -/

theorem reads_readAll {read : Reader α} {bs : List Bytes} {as : List α}
    (h : List.Forall₂ (Reads read) bs as) : Reads (readAll as.length read) bs.flatten as :=
  reads_readFrom h []

theorem reads_all {read : Reader α} {write : α → Except EncodeError Bytes} {f : α → α}
    (hread : ∀ {a b}, write a = .ok b → Reads read b (f a)) {l : List α} {b : Bytes}
    (h : writeAll write l = .ok b) : Reads (readAll l.length read) b (l.map f) := by
  obtain ⟨bs, hbs, h⟩ := bind_eq_ok_iff.mp h
  obtain rfl := Except.ok.inj h
  have hl : List.Forall₂ (Reads read) bs (l.map f) := by
    rw [List.forall₂_map_right_iff]
    exact (mapM_eq_ok_iff.mp hbs).flip.imp fun _ _ => hread
  simpa using reads_readAll hl

theorem reads_list {read : Reader α} {write : α → Except EncodeError Bytes} {f : α → α}
    (hread : ∀ {a b}, write a = .ok b → Reads read b (f a)) {field : String} {l : List α}
    {c b : Bytes} (hcount : writeCount field l.length = .ok c) (h : writeAll write l = .ok b) :
    Reads (readList read) (c ++ b) (l.map f) :=
  (reads_count hcount).bind (reads_all hread h)

theorem reads_flatMap {read : Reader α} {write : α → Bytes} (hread : ∀ a, Reads read (write a) a)
    (l : List α) : Reads (readAll l.length read) (l.flatMap write) l := by
  have hl : List.Forall₂ (Reads read) (l.map write) l := by
    rw [List.forall₂_map_left_iff]
    exact List.forall₂_same.mpr fun a _ => hread a
  exact reads_readAll hl

theorem reads_option {read : Reader α} {write : α → Except EncodeError Bytes} {f : α → α}
    (hread : ∀ {a b}, write a = .ok b → Reads read b (f a)) {o : Option α} {b : Bytes}
    (h : writeOption write o = .ok b) : Reads (readOption read) b (o.map f) := by
  cases o with
  | none =>
    obtain rfl := Except.ok.inj h
    exact (reads_take Marker.absent).bind (Reads.pure none)
  | some a =>
    obtain ⟨c, hc, h⟩ := bind_eq_ok_iff.mp h
    obtain rfl := Except.ok.inj h
    exact (reads_take Marker.present).bind ((hread hc).bind_pure some)

end KernelWallet.Wire
