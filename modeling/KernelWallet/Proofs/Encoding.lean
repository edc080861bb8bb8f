import KernelWallet.Proofs.Payload

/-! The two forms of a transaction behind one reader. Bytes in the msgpack form never start like
those with a header, so each form is read by its own reader, and what is read back is what the
version writes. -/

namespace KernelWallet.Transaction

variable {tx : Transaction} {b : Bytes}

theorem splitHeader?_writeWith (tx : Transaction) (signatures : Option Bytes) :
    Wire.splitHeader? (Legacy.writeWith tx signatures) = none := by
  cases signatures <;> rfl

theorem encode_of_lt_binary (hv : tx.version < Version.binary) : tx.encode = Legacy.write tx :=
  if_pos hv

theorem encodePayload_of_lt_binary (hv : tx.version < Version.binary) :
    tx.encodePayload = .ok (Legacy.writePayload tx) :=
  if_pos hv

theorem splitHeader?_of_encode (hv : tx.version < Version.binary) (h : tx.encode = .ok b) :
    Wire.splitHeader? b = none := by
  rw [encode_of_lt_binary hv] at h
  obtain ⟨gs, _, _, rfl⟩ := Legacy.write_eq_ok_iff.mp h
  exact splitHeader?_writeWith tx _

/-- Signatures are what can keep a transaction from the msgpack form. -/
theorem exists_encode_iff (hv : tx.version < Version.binary) :
    (∃ b, tx.encode = .ok b) ↔
      ∃ gs, tx.signatures = .groups gs ∧ ∀ g ∈ gs, g.IsNumbered := by
  simp only [encode_of_lt_binary hv, Legacy.write_eq_ok_iff]
  constructor
  · rintro ⟨_, gs, hgs, hnumbered, _⟩
    exact ⟨gs, hgs, hnumbered⟩
  · rintro ⟨gs, hgs, hnumbered⟩
    exact ⟨_, gs, hgs, hnumbered, rfl⟩

theorem decode_of_encode_of_lt_binary (hv : tx.version < Version.binary) (hbody : tx.FitsMsgpack)
    (hsigs : tx.signatures.FitsMsgpack) (h : tx.encode = .ok b) :
    decode b = .ok { tx with references := [] } := by
  rw [decode, splitHeader?_of_encode hv h]
  rw [encode_of_lt_binary hv] at h
  exact Legacy.read_write hv hbody hsigs h

theorem decode_of_encode (hle : tx.extra.length ≤ Limit.storageCapacity)
    (hfits : tx.version < Version.binary → tx.FitsMsgpack ∧ tx.signatures.FitsMsgpack)
    (h : tx.encode = .ok b) : decode b = .ok tx.onWire := by
  by_cases hv : tx.version < Version.binary
  · obtain ⟨hbody, hsigs⟩ := hfits hv
    rw [onWire_of_lt_binary hv]
    exact decode_of_encode_of_lt_binary hv hbody hsigs h
  · rw [encode, if_neg hv] at h
    obtain ⟨hbinary, body, hbody, rfl⟩ := Wire.write_eq_ok_iff.mp h
    exact decode_header_append hbinary hle hbody

/-- What is read back from a payload has the name of what the payload is of. -/
theorem payloadHash_read (hv : tx.version < Version.binary) :
    ({ tx with references := [], signatures := Signatures.none } : Transaction).payloadHash =
      tx.payloadHash := by
  have hname := payloadHash_onWire tx.payload
  rw [onWire_payload_of_lt_binary hv] at hname
  rw [hname, payloadHash, payloadHash, encodePayload_of_lt_binary hv,
    @encodePayload_of_lt_binary tx.payload hv]
  rfl

/-- A transaction of the msgpack form is written if its signatures are those of numbered signers,
and its payload is written whatever they are. Neither starts with a header, and both read back, the
payload without signatures and under the same name. References are not written. -/
theorem decode_encode_of_lt_binary (hv : tx.version < Version.binary) :
    ((∃ b, tx.encode = .ok b) ↔
        ∃ gs, tx.signatures = .groups gs ∧ ∀ g ∈ gs, g.IsNumbered) ∧
      (∀ b, tx.encode = .ok b → Wire.splitHeader? b = none ∧
        (tx.FitsMsgpack → tx.signatures.FitsMsgpack →
          decode b = .ok { tx with references := [] })) ∧
      ∃ b hash, tx.encodePayload = .ok b ∧ tx.payloadHash = .ok hash ∧
        Wire.splitHeader? b = none ∧
        (tx.FitsMsgpack → ∃ payload, decode b = .ok payload ∧
          payload = { tx with references := [], signatures := Signatures.none } ∧
          payload.payloadHash = .ok hash) := by
  refine ⟨exists_encode_iff hv, fun b h => ⟨splitHeader?_of_encode hv h, fun hbody hsigs =>
    decode_of_encode_of_lt_binary hv hbody hsigs h⟩, ?_⟩
  have hpayload := encodePayload_of_lt_binary hv
  obtain ⟨hash, hhash⟩ : ∃ hash, tx.payloadHash = .ok hash := by
    rw [payloadHash, hpayload]
    exact ⟨_, rfl⟩
  have hheader := splitHeader?_writeWith tx none
  refine ⟨_, hash, hpayload, hhash, hheader, fun hfits => ⟨_, ?_, rfl, ?_⟩⟩
  · rw [Legacy.writePayload, decode, hheader]
    exact Legacy.read_writePayload hv hfits
  · rw [payloadHash_read hv, hhash]

/-- A deposit that two of its signers have signed, with a reference that is not written. -/
def signedDeposit : Transaction :=
  { referring with
    signatures :=
      .groups [⟨[(0, ⟨Vector.replicate 64 3⟩), (1, ⟨Vector.replicate 64 4⟩)], by decide⟩] }

theorem decode_encode_of_lt_binary_signedDeposit :
    ∃ b c payload, signedDeposit.version < Version.binary ∧ signedDeposit.FitsMsgpack ∧
      signedDeposit.signatures.FitsMsgpack ∧ signedDeposit.encode = .ok b ∧
      decode b = .ok { signedDeposit with references := [] } ∧
      signedDeposit.encodePayload = .ok c ∧ decode c = .ok payload ∧
      payload = { signedDeposit with references := [], signatures := Signatures.none } ∧
      payload.payloadHash = signedDeposit.payloadHash := by
  have hv : signedDeposit.version < Version.binary := by decide
  have hfits : signedDeposit.FitsMsgpack := { fitsMsgpack_deposited with }
  have hsigs : signedDeposit.signatures.FitsMsgpack := Nat.one_lt_two_pow (by decide)
  obtain ⟨_, hencode, c, hash, hpayload, hhash, _, hdecode⟩ := decode_encode_of_lt_binary hv
  obtain ⟨b, hb⟩ : ∃ b, signedDeposit.encode = .ok b := ⟨_, rfl⟩
  obtain ⟨payload, hread, heq, hname⟩ := hdecode hfits
  exact ⟨b, c, payload, hv, hfits, hsigs, hb, (hencode b hb).2 hfits hsigs, hpayload, hread, heq,
    hname.trans hhash.symm⟩

end KernelWallet.Transaction
