import KernelWallet.Proofs.Wire.Canonical

/-! Where a transaction in the big-endian form ends. What a reader takes off the front of some bytes
is enough by itself: the reader takes the same whatever follows, and with any of it cut off it runs
out of bytes before one of its checks can fail. -/

namespace KernelWallet

namespace Wire

variable {α β : Type}

/-- The reader runs out of bytes, for want of some but of no more than `n`. -/
def Lacks (read : Reader α) (b : Bytes) (n : Nat) : Prop :=
  ∃ missing, read.run b = .error (.unexpectedEof missing) ∧ 0 < missing ∧ missing ≤ n

/-- The reader gives `a` on all bytes that start with `b`, and on no shorter beginning of them. -/
structure Frames (read : Reader α) (b : Bytes) (a : α) : Prop where
  reads : Reads read b a
  lacks : ∀ p c : Bytes, b = p ++ c → c ≠ [] → Lacks read p c.length

/-- Whenever the reader succeeds, what it took is enough, and none of it can be spared. -/
def IsFraming (read : Reader α) : Prop :=
  ∀ (s rest : Bytes) (a : α), read.run s = .ok (a, rest) → ∃ b, s = b ++ rest ∧ Frames read b a

section

variable {read : Reader α} {next : α → Reader β} {b c : Bytes} {a : α} {r : β} {n : Nat}

theorem Lacks.mono {m : Nat} (h : Lacks read b m) (hle : m ≤ n) : Lacks read b n := by
  obtain ⟨missing, hrun, hpos, hm⟩ := h
  exact ⟨missing, hrun, hpos, hm.trans hle⟩

theorem Lacks.bind (h : Lacks read b n) : Lacks (read >>= next) b n := by
  obtain ⟨missing, hrun, hmissing⟩ := h
  refine ⟨missing, ?_, hmissing⟩
  rw [StateT.run_bind, hrun]
  rfl

theorem Reads.bind_lacks (h : Reads read b a) (h' : Lacks (next a) c n) :
    Lacks (read >>= next) (b ++ c) n := by
  obtain ⟨missing, hrun, hmissing⟩ := h'
  refine ⟨missing, ?_, hmissing⟩
  rw [StateT.run_bind, h c, pure_bind, hrun]

/-- A cut falls either into what the first reader takes or behind it. -/
theorem Frames.bind (h : Frames read b a) (h' : Frames (next a) c r) :
    Frames (read >>= next) (b ++ c) r := by
  refine ⟨h.reads.bind h'.reads, fun p d hcut hne => ?_⟩
  rcases List.append_eq_append_iff.mp hcut with ⟨p', rfl, hc⟩ | ⟨d', hb, rfl⟩
  · exact Reads.bind_lacks h.reads (h'.lacks _ _ hc hne)
  · by_cases hd : d' = []
    · subst hd
      rw [List.append_nil] at hb
      subst hb
      rw [← List.append_nil b]
      exact Reads.bind_lacks h.reads (h'.lacks _ _ rfl hne)
    · refine (h.lacks _ _ hb hd).bind.mono ?_
      rw [List.length_append]
      exact Nat.le_add_right _ _

namespace IsFraming

theorem pure (a : α) : IsFraming (Pure.pure a : Reader α) := by
  intro s rest a' h
  obtain ⟨rfl, rfl⟩ := Prod.mk.inj (Except.ok.inj h)
  refine ⟨[], rfl, Reads.pure _, fun p c hcut hne => ?_⟩
  exact absurd (List.append_eq_nil_iff.mp hcut.symm).2 hne

theorem throw (e : DecodeError) : IsFraming (throw e : Reader α) :=
  fun _ _ _ h => absurd h (run_throw_ne_ok _ _ _)

theorem bind (h : IsFraming read) (h' : ∀ a, IsFraming (next a)) : IsFraming (read >>= next) := by
  intro s rest r hrun
  obtain ⟨a, t, ha, hr⟩ := run_bind_eq_ok_iff.mp hrun
  obtain ⟨b, rfl, hb⟩ := h _ _ _ ha
  obtain ⟨c, rfl, hc⟩ := h' a _ _ _ hr
  exact ⟨b ++ c, (List.append_assoc ..).symm, hb.bind hc⟩

theorem map (h : IsFraming read) (f : α → β) : IsFraming (read >>= fun a => Pure.pure (f a)) :=
  h.bind fun a => .pure (f a)

theorem readFrom (h : IsFraming read) (n : Nat) (done : List α) :
    IsFraming (readFrom read n done) := by
  induction n generalizing done with
  | zero => exact .pure _
  | succ n ih => exact h.bind fun a => ih (a :: done)

end IsFraming

end

/-! ## Fields -/

theorem isFraming_take (n : Nat) : IsFraming (take n) := by
  intro s rest b h
  obtain ⟨rfl, rfl⟩ := eq_of_take h
  refine ⟨b, rfl, reads_take b, fun p c hcut hne => ⟨c.length, ?_, ?_, le_rfl⟩⟩
  · have hlen : b.length = p.length + c.length := by rw [hcut, List.length_append]
    have hpos := List.length_pos_iff.mpr hne
    rw [run_take, List.take_of_length_le (by omega), if_neg (by omega), hlen,
      Nat.add_sub_cancel_left]
  · exact List.length_pos_iff.mpr hne

theorem isFraming_takeVector (n : Nat) : IsFraming (takeVector n) := by
  intro s rest v h
  obtain rfl := eq_of_takeVector h
  refine ⟨v.toList, rfl, reads_takeVector v, fun p c hcut hne => ⟨c.length, ?_, ?_, le_rfl⟩⟩
  · have hlen : n = p.length + c.length := by
      rw [← v.length_toList, hcut, List.length_append]
    have hpos := List.length_pos_iff.mpr hne
    rw [run_takeVector, List.take_of_length_le (by omega), Bytes.toVector?, dif_neg (by omega)]
    simp only [hlen, Nat.add_sub_cancel_left]
  · exact List.length_pos_iff.mpr hne

theorem isFraming_readNat (width : Nat) : IsFraming (readNat width) :=
  (isFraming_take width).map _

theorem isFraming_readUInt8 : IsFraming readUInt8 :=
  (isFraming_readNat 1).map _

theorem isFraming_readUInt16 : IsFraming readUInt16 :=
  (isFraming_readNat 2).map _

theorem isFraming_readUInt64 : IsFraming readUInt64 :=
  (isFraming_readNat 8).map _

theorem isFraming_readHash : IsFraming readHash :=
  (isFraming_takeVector 32).map _

theorem isFraming_readKey : IsFraming readKey :=
  (isFraming_takeVector 32).map _

theorem isFraming_readSignature : IsFraming readSignature :=
  (isFraming_takeVector 64).map _

theorem isFraming_readBytes : IsFraming readBytes :=
  (isFraming_readNat 2).bind isFraming_take

/-- A text is checked when all of it is there. -/
theorem isFraming_readText : IsFraming readText := by
  refine isFraming_readBytes.bind fun b => ?_
  split
  · exact .pure _
  · exact .throw _

theorem isFraming_readAmount : IsFraming readAmount := by
  refine isFraming_readBytes.bind fun b => ?_
  split
  · exact .pure _
  · exact .throw _

theorem isFraming_readAll {read : Reader α} (h : IsFraming read) (n : Nat) :
    IsFraming (readAll n read) :=
  h.readFrom n []

theorem isFraming_readList {read : Reader α} (h : IsFraming read) : IsFraming (readList read) :=
  (isFraming_readNat 2).bind (isFraming_readAll h)

theorem isFraming_readOption {read : Reader α} (h : IsFraming read) :
    IsFraming (readOption read) := by
  refine (isFraming_take 2).bind fun marker => ?_
  split
  · exact h.map some
  · split
    · exact .pure none
    · exact .throw _

/-! ## Inputs and outputs -/

theorem isFraming_readDeposit : IsFraming readDeposit := by
  refine isFraming_readHash.bind fun chain => ?_
  refine isFraming_readText.bind fun assetKey => ?_
  refine isFraming_readText.bind fun transaction => ?_
  refine isFraming_readUInt64.bind fun index => ?_
  exact isFraming_readAmount.map _

theorem isFraming_readMint : IsFraming readMint := by
  refine isFraming_readText.bind fun group => ?_
  refine isFraming_readUInt64.bind fun batch => ?_
  exact isFraming_readAmount.map _

theorem isFraming_readIndex : IsFraming readIndex := by
  refine (isFraming_readNat 2).bind fun index => ?_
  split
  · exact .pure _
  · exact .throw _

theorem isFraming_readInput : IsFraming readInput := by
  refine isFraming_readHash.bind fun hash => ?_
  refine isFraming_readIndex.bind fun index => ?_
  refine isFraming_readBytes.bind fun genesis => ?_
  refine (isFraming_readOption isFraming_readDeposit).bind fun deposit => ?_
  exact (isFraming_readOption isFraming_readMint).map _

theorem isFraming_readKind : IsFraming readKind := by
  refine isFraming_readUInt16.bind fun word => ?_
  split
  · split
    · exact .pure _
    · exact .throw _
  · exact .throw _

theorem isFraming_readSource (version : UInt8) : IsFraming (readSource version) := by
  rw [readSource]
  split
  · exact isFraming_readHash.bind fun chain => isFraming_readText.map _
  · exact .pure _

theorem isFraming_readWithdrawal (version : UInt8) : IsFraming (readWithdrawal version) := by
  refine (isFraming_readSource version).bind fun source => ?_
  refine isFraming_readText.bind fun address => ?_
  exact isFraming_readText.map _

theorem isFraming_readOutput (version : UInt8) : IsFraming (readOutput version) := by
  refine isFraming_readKind.bind fun kind => ?_
  refine isFraming_readAmount.bind fun amount => ?_
  refine (isFraming_readList isFraming_readKey).bind fun keys => ?_
  refine isFraming_readKey.bind fun mask => ?_
  refine isFraming_readBytes.bind fun script => ?_
  exact (isFraming_readOption (isFraming_readWithdrawal version)).map _

/-! ## Signatures -/

theorem isFraming_checkAscending (signer : UInt16) (last : Option UInt16) :
    IsFraming (checkAscending signer last) := by
  cases last with
  | none => exact .pure ()
  | some last =>
    rw [checkAscending]
    split
    · exact .throw _
    · exact .pure ()

theorem isFraming_readAscendingFrom {signerOf : α → UInt16} {read : UInt16 → Reader α}
    (h : ∀ signer, IsFraming (read signer)) (n : Nat) (done : List α) :
    IsFraming (readAscendingFrom signerOf read n done) := by
  induction n generalizing done with
  | zero => exact .pure _
  | succ n ih =>
    refine isFraming_readUInt16.bind fun signer => ?_
    refine (isFraming_checkAscending signer _).bind fun _ => ?_
    exact (h signer).bind fun a => ih (a :: done)

theorem isFraming_readAscending {signerOf : α → UInt16} {read : UInt16 → Reader α}
    (h : ∀ signer, IsFraming (read signer)) : IsFraming (readAscending signerOf read) :=
  (isFraming_readNat 2).bind fun n => isFraming_readAscendingFrom h n []

theorem isFraming_readGroup : IsFraming readGroup :=
  (isFraming_readAscending fun signer => isFraming_readSignature.map (signer, ·)).map _

theorem isFraming_readBitmap : IsFraming readBitmap := by
  refine isFraming_readBytes.bind fun bitmap => ?_
  split
  · exact .throw _
  · split
    · exact .throw _
    · exact .pure _

theorem isFraming_readLayout (mode : UInt8) : IsFraming (readLayout mode) := by
  rw [readLayout]
  split
  · exact isFraming_readAscending .pure
  · split
    · exact isFraming_readBitmap
    · exact .throw _

theorem isFraming_readSigners : IsFraming readSigners := by
  refine isFraming_readUInt8.bind fun mode => ?_
  refine (isFraming_readLayout mode).bind fun signers => ?_
  dsimp only
  split
  · exact .pure _
  · exact .throw _

theorem isFraming_readAggregated : IsFraming readAggregated := by
  refine isFraming_readUInt16.bind fun marker => ?_
  split
  · exact isFraming_readSignature.bind fun signature => isFraming_readSigners.map _
  · exact .throw _

theorem isFraming_readSignatures : IsFraming readSignatures := by
  refine isFraming_readUInt16.bind fun count => ?_
  split
  · exact isFraming_readAggregated.map _
  · exact (isFraming_readAll isFraming_readGroup _).map _

/-! ## Transactions -/

theorem isFraming_readReferences (version : UInt8) : IsFraming (readReferences version) := by
  rw [readReferences]
  split
  · exact isFraming_readList isFraming_readHash
  · exact .pure _

/-- The length of an extra is checked before any of it is read, and it is the same however much of
the extra is there. -/
theorem isFraming_readExtra (version : UInt8) : IsFraming (readExtra version) := by
  refine (isFraming_readNat _).bind fun length => ?_
  split
  · exact isFraming_take length
  · exact .throw _

theorem isFraming_readBody (version : UInt8) : IsFraming (readBody version) := by
  refine isFraming_readHash.bind fun asset => ?_
  refine (isFraming_readList isFraming_readInput).bind fun inputs => ?_
  refine (isFraming_readList (isFraming_readOutput version)).bind fun outputs => ?_
  refine (isFraming_readReferences version).bind fun references => ?_
  refine (isFraming_readExtra version).bind fun extra => ?_
  exact isFraming_readSignatures.map _

variable {version : UInt8} {body : Bytes} {tx : Transaction}

/-- All that is read was needed, since nothing of it is left. -/
theorem frames_of_read (h : read version body = .ok tx) : Frames (readBody version) body tx := by
  obtain ⟨b, hb, hframes⟩ := isFraming_readBody version body [] tx (of_read_eq_ok h).2
  rw [List.append_nil] at hb
  rwa [hb]

theorem read_append (h : read version body = .ok tx) {t : Bytes} (ht : t ≠ []) :
    read version (body ++ t) = .error (.trailingBytes t.length) := by
  have hrun := (frames_of_read h).reads t
  rw [read, if_pos (of_read_eq_ok h).1, hrun]
  cases t with
  | nil => exact absurd rfl ht
  | cons => rfl

theorem read_of_cut (h : read version body = .ok tx) {p c : Bytes} (hcut : body = p ++ c)
    (hc : c ≠ []) :
    ∃ missing, read version p = .error (.unexpectedEof missing) ∧ 0 < missing ∧
      missing ≤ c.length := by
  obtain ⟨missing, hrun, hmissing⟩ := (frames_of_read h).lacks p c hcut hc
  refine ⟨missing, ?_, hmissing⟩
  rw [read, if_pos (of_read_eq_ok h).1, hrun]

end Wire

namespace Transaction

/-- A transaction that is read behind a header ends where its bytes end. With more behind them they
are refused for just that, and cut off anywhere behind the header they are refused as too short, by
no more than what was cut off. -/
theorem ends_of_decode {version : UInt8} {body : Bytes} {tx : Transaction}
    (h : decode (Wire.header version ++ body) = .ok tx) :
    (∀ t : Bytes, t ≠ [] →
        decode (Wire.header version ++ body ++ t) = .error (.trailingBytes t.length)) ∧
      ∀ p : Bytes, p <+: Wire.header version ++ body → p ≠ Wire.header version ++ body →
        4 ≤ p.length → ∃ missing, decode p = .error (.unexpectedEof missing) ∧ 0 < missing ∧
          p.length + missing ≤ (Wire.header version ++ body).length := by
  rw [decode, Wire.splitHeader?_header] at h
  refine ⟨fun t ht => ?_, fun p hp hne hlen => ?_⟩
  · rw [List.append_assoc, decode, Wire.splitHeader?_header]
    exact Wire.read_append h ht
  · have hheader : Wire.header version <+: p :=
      List.prefix_of_prefix_length_le (List.prefix_append _ body) hp hlen
    obtain ⟨p', rfl⟩ := hheader
    obtain ⟨c, hc⟩ := (List.prefix_append_right_inj _).mp hp
    have hcut : c ≠ [] := by
      rintro rfl
      rw [List.append_nil] at hc
      exact hne (by rw [hc])
    obtain ⟨missing, hread, hpos, hle⟩ := Wire.read_of_cut h hc.symm hcut
    rw [decode, Wire.splitHeader?_header]
    refine ⟨missing, hread, hpos, ?_⟩
    rw [← hc, List.length_append, List.length_append, List.length_append]
    omega

/-- With a byte too many, and cut off within its signature. -/
theorem ends_of_decode_paddedWithdrawal :
    decode (Wire.header 5 ++ paddedWithdrawal) = .ok signedWithdrawal.onWire ∧
      decode (Wire.header 5 ++ paddedWithdrawal ++ [0]) = .error (.trailingBytes 1) ∧
      ∃ missing, decode (Wire.header 5 ++ paddedWithdrawal.take 250) =
        .error (.unexpectedEof missing) ∧ 0 < missing := by
  have h : decode (Wire.header 5 ++ paddedWithdrawal) = .ok signedWithdrawal.onWire := by
    decide +kernel
  obtain ⟨htrailing, hcut⟩ := ends_of_decode h
  have hprefix : Wire.header 5 ++ paddedWithdrawal.take 250 <+: Wire.header 5 ++ paddedWithdrawal :=
    (List.prefix_append_right_inj _).mpr (List.take_prefix 250 _)
  obtain ⟨missing, hread, hpos, _⟩ := hcut _ hprefix (by decide +kernel) (by decide +kernel)
  exact ⟨h, htrailing [0] (by decide), missing, hread, hpos⟩

end Transaction

end KernelWallet
