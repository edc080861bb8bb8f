import KernelWallet.Proofs.Wire.ReadsBack

/-! What is written and not read back. From the version with references on, an extra has four bytes
for its length, which is more than the reader takes: it stops at the storage capacity. That is all
that the reader refuses of what the writer writes. -/

namespace KernelWallet

namespace Wire

theorem throws_readExtra {version : UInt8} {width : Nat} {extra count : Bytes}
    (hwidth : width = if Version.references ≤ version then 4 else 2)
    (hlt : Limit.storageCapacity < extra.length) (h : Reads (readNat width) count extra.length) :
    Throws (readExtra version) count (.extraTooLarge extra.length) := by
  have hthrow : Throws (do
      if extra.length ≤ Limit.storageCapacity then take extra.length
      else throw (.extraTooLarge extra.length)) [] (DecodeError.extraTooLarge extra.length) := by
    intro rest
    rw [if_neg (Nat.not_le.mpr hlt)]
    rfl
  rw [readExtra, ← hwidth, ← List.append_nil count]
  exact h.bind_throws hthrow

/-- An extra over the capacity does not fit in two bytes, so it is written behind four. -/
theorem throws_extra {version : UInt8} {extra b : Bytes}
    (hlt : Limit.storageCapacity < extra.length) (h : writeExtra version extra = .ok b) :
    Version.references ≤ version ∧ Throws (readExtra version) b (.extraTooLarge extra.length) := by
  rw [writeExtra] at h
  split at h
  · next hv =>
    split at h
    · next hlen =>
      obtain rfl := Except.ok.inj h
      exact ⟨hv, (throws_readExtra (if_pos hv).symm hlt (reads_nat hlen)).append extra⟩
    · exact absurd h (by simp)
  · obtain ⟨count, hcount, _⟩ := bind_eq_ok_iff.mp h
    have hlen := (writeCount_eq_ok_iff.mp hcount).1
    have hcapacity : 2 ^ 16 ≤ Limit.storageCapacity := by decide
    omega

theorem throws_body {tx : Transaction} {b : Bytes}
    (hlt : Limit.storageCapacity < tx.extra.length) (h : writeBody tx = .ok b) :
    Version.references ≤ tx.version ∧
      Throws (readBody tx.version) b (.extraTooLarge tx.extra.length) := by
  obtain ⟨inputs, outputs, references, extra, signatures, rfl, hins, houts, hrefs, hextra, _⟩ :=
    exists_parts h
  obtain ⟨hv, hthrow⟩ := throws_extra hlt hextra
  refine ⟨hv, (reads_hash tx.asset).bind_throws ?_⟩
  refine hins.bind_throws ?_
  refine houts.bind_throws ?_
  refine hrefs.bind_throws ?_
  exact (hthrow.bind).append signatures

theorem read_of_throws {version : UInt8} {body : Bytes} {e : DecodeError}
    (hv : Version.isBinary version) (h : Throws (readBody version) body e) :
    read version body = .error e := by
  have hrun := h []
  rw [List.append_nil] at hrun
  rw [read, if_pos hv, hrun]

end Wire

namespace Transaction

variable {tx : Transaction} {b : Bytes}

theorem decode_of_storageCapacity_lt (hv : Version.isBinary tx.version)
    (hlt : Limit.storageCapacity < tx.extra.length) (h : tx.encode = .ok b) :
    Version.references ≤ tx.version ∧ decode b = .error (.extraTooLarge tx.extra.length) := by
  rw [encode_of_isBinary hv] at h
  obtain ⟨_, body, hbody, rfl⟩ := Wire.write_eq_ok_iff.mp h
  obtain ⟨hversion, hthrow⟩ := Wire.throws_body hlt hbody
  rw [decode, Wire.splitHeader?_header]
  exact ⟨hversion, Wire.read_of_throws hv hthrow⟩

/-- What was written is read back exactly if its extra is within the capacity, which it always is
before it has four bytes for its length. Otherwise the reader says how long the extra is. -/
theorem exists_decode_iff_of_encode (hv : Version.isBinary tx.version) (h : tx.encode = .ok b) :
    ((∃ tx', decode b = .ok tx') ↔ tx.extra.length ≤ Limit.storageCapacity) ∧
      (Limit.storageCapacity < tx.extra.length →
        Version.references ≤ tx.version ∧
          decode b = .error (.extraTooLarge tx.extra.length)) := by
  refine ⟨⟨?_, fun hle => ?_⟩, fun hlt => decode_of_storageCapacity_lt hv hlt h⟩
  · rintro ⟨tx', htx⟩
    by_contra hle
    have hrefused := (decode_of_storageCapacity_lt hv (Nat.lt_of_not_le hle) h).2
    exact nomatch htx.symm.trans hrefused
  · rw [encode_of_isBinary hv] at h
    obtain ⟨_, body, hbody, rfl⟩ := Wire.write_eq_ok_iff.mp h
    exact ⟨tx.onWire, decode_header_append hv hle hbody⟩

/-- A transaction that stores `n` zero bytes and does nothing else. -/
def storing (n : Nat) : Transaction where
  version := Version.latest
  asset := Hash.zero
  extra := List.replicate n 0

theorem length_extra_storing (n : Nat) : (storing n).extra.length = n :=
  List.length_replicate

theorem exists_encode_storing {n : Nat} (h : n < 2 ^ 32) : ∃ b, (storing n).encode = .ok b := by
  have hlength : (storing n).extra.length < 2 ^ 32 := by rwa [length_extra_storing]
  have hversion : Version.references ≤ (storing n).version :=
    (by decide : Version.references ≤ Version.latest)
  have hextra : Wire.writeExtra (storing n).version (storing n).extra =
      .ok (Bytes.ofNatBE 4 (storing n).extra.length ++ (storing n).extra) := by
    rw [Wire.writeExtra, if_pos hversion, if_pos hlength]
  have hbody : ∃ body, Wire.writeBody (storing n) = .ok body := by
    rw [Wire.writeBody, hextra]
    exact ⟨_, rfl⟩
  obtain ⟨body, hbody⟩ := hbody
  exact ⟨_, (encode_of_isBinary rfl).trans (Wire.write_eq_ok_iff.mpr ⟨rfl, body, hbody, rfl⟩)⟩

theorem exists_decode_iff_of_encode_storing :
    ∃ b, Version.isBinary (storing 4194305).version ∧ (storing 4194305).encode = .ok b ∧
      decode b = .error (.extraTooLarge 4194305) := by
  obtain ⟨b, hb⟩ := exists_encode_storing (by decide : 4194305 < 2 ^ 32)
  have hrefused := (exists_decode_iff_of_encode rfl hb).2
  rw [length_extra_storing] at hrefused
  exact ⟨b, rfl, hb, (hrefused (by decide)).2⟩

/-- One byte over the capacity is written and not read. -/
theorem not_forall_exists_decode :
    ¬ ∀ (tx : Transaction) (b : Bytes), Version.isBinary tx.version → tx.encode = .ok b →
      ∃ tx', decode b = .ok tx' := by
  intro hall
  obtain ⟨b, hb⟩ := exists_encode_storing (by decide : 4194305 < 2 ^ 32)
  obtain ⟨tx', htx⟩ := hall _ b rfl hb
  have hlt : Limit.storageCapacity < (storing 4194305).extra.length := by
    rw [length_extra_storing]
    decide
  exact nomatch htx.symm.trans (decode_of_storageCapacity_lt rfl hlt hb).2

end Transaction

end KernelWallet
