import KernelWallet.Proofs.Encoding
import KernelWallet.Proofs.Session
import KernelWallet.Proofs.Wire.Fits

/-! A sealed session written out and read back by whoever it is relayed to. -/

namespace KernelWallet

variable {E : Curve}

/-- Without withdrawals, nothing of a valid transaction is left out. -/
theorem Transaction.onWire_eq_self {tx : Transaction} (hvalid : tx.validate E = .ok ())
    (hwithdrawal : ∀ o ∈ tx.outputs, o.withdrawal = none) : tx.onWire = tx := by
  have houtputs : tx.outputs.map (Output.onWire tx.version) = tx.outputs := by
    refine (List.map_congr_left fun o ho => ?_).trans (List.map_id _)
    rw [Output.onWire, hwithdrawal o ho, Option.map_none, ← hwithdrawal o ho]
    rfl
  rw [onWire, houtputs, references_onWire hvalid]

namespace Session

variable {s : Session} {hash : Hash} {b : Bytes}

theorem raw_eq_ok_iff (hv : Version.isBinary s.tx.version = true) :
    s.raw = .ok b ↔
      ∃ body, Wire.writeBody s.tx = .ok body ∧ b = Wire.header s.tx.version ++ body := by
  rw [raw, mapError_eq_ok_iff, Transaction.encode_of_isBinary hv, Wire.write_eq_ok_iff,
    and_iff_right hv]

/-- The signatures are all that can keep a transaction with a hash from being written. -/
theorem exists_raw (hv : Version.isBinary s.tx.version = true) (hhash : s.tx.payloadHash = .ok hash)
    (hsigs : s.tx.signatures.FitsWire) : ∃ b, s.raw = .ok b := by
  have hbinary := Version.not_lt_binary_of_isBinary hv
  obtain ⟨payload, hpayload, _⟩ := bind_eq_ok_iff.mp hhash
  obtain ⟨body, hbody, _⟩ := Wire.exists_of_encodePayload hbinary hpayload
  have hfits : s.tx.payload.FitsWire := Transaction.exists_writeBody_iff_fitsWire.mp ⟨body, hbody⟩
  obtain ⟨signed, hsigned⟩ :=
    Transaction.exists_writeBody_iff_fitsWire.mpr (hfits.of_payload hsigs)
  exact ⟨_, (raw_eq_ok_iff hv).mpr ⟨signed, hsigned, rfl⟩⟩

/-- A session reads back as what is written of it, under the same hash. -/
theorem decode_of_raw (hle : s.tx.extra.length ≤ Limit.storageCapacity)
    (hfits : s.tx.version < Version.binary → s.tx.FitsMsgpack ∧ s.tx.signatures.FitsMsgpack)
    (hhash : s.tx.payloadHash = .ok hash) (h : s.raw = .ok b) :
    decode b = .ok ⟨s.tx.onWire, .built, some hash⟩ := by
  have hread := Transaction.decode_of_encode hle hfits (mapError_eq_ok_iff.mp h)
  rw [← Transaction.payloadHash_onWire] at hhash
  rw [decode, hread]
  exact bind_eq_ok_iff.mpr ⟨_, rfl, bind_eq_ok_iff.mpr ⟨hash, mapError_eq_ok_iff.mpr hhash, rfl⟩⟩

/-- Whatever is done to a draft, once it is sealed its bytes read back with the same hash, the same
signatures and the same body, except that the short form of a withdrawal leaves out where it comes
from. -/
theorem relayed_of_raw {tx : Transaction} {ops : List Op} (hs : s = afterAll E ops (draft tx))
    (hhash : s.hash = some hash)
    (hfits : s.tx.version < Version.binary → s.tx.FitsMsgpack ∧ s.tx.signatures.FitsMsgpack)
    (hraw : s.raw = .ok b) :
    ∃ relayed, decode b = .ok relayed ∧ relayed.hash = some hash ∧
      relayed.tx.signatures = s.tx.signatures ∧
      relayed.tx =
        { s.tx with outputs := s.tx.outputs.map (Output.onWire s.tx.version) } ∧
      (s.tx.version < Version.shortWithdrawals → relayed.tx = s.tx) := by
  have hsteps := steps_afterAll E ops (draft tx)
  rw [← hs] at hsteps
  -- Sealing made the body valid and named it, and every step since has kept both.
  have hnamed : s.tx.payloadHash = .ok hash :=
    namesBody_of_steps hsteps (namesBody_draft tx) hash hhash
  have hvalid : s.tx.validate E = .ok () := by
    refine sealedValid_of_steps hsteps (fun h => nomatch h) ?_
    rw [hhash]
    rfl
  have hle : s.tx.extra.length ≤ Limit.storageCapacity :=
    (Transaction.validate_eq_ok_iff.mp hvalid).extra_le
  have hbody : s.tx.onWire =
      { s.tx with outputs := s.tx.outputs.map (Output.onWire s.tx.version) } := by
    rw [Transaction.onWire, Transaction.references_onWire hvalid]
  refine ⟨_, decode_of_raw hle hfits hnamed hraw, rfl, rfl, hbody, fun hv => ?_⟩
  rw [hbody, Transaction.map_onWire hv]

/-- A draft in the msgpack form is sealed, signed and submitted. -/
def submission : List Op :=
  [.sealBody, .setSignature 0 0 ⟨Vector.replicate 64 9⟩, .advance .submitted]

theorem relayed_of_raw_deposited :
    ∃ s hash b relayed, s = afterAll Curve.ed25519 submission (draft Transaction.deposited) ∧
      s.hash = some hash ∧ s.tx.FitsMsgpack ∧ s.tx.signatures.FitsMsgpack ∧ s.raw = .ok b ∧
      decode b = .ok relayed ∧ relayed.hash = some hash ∧ relayed.tx = s.tx ∧
      s.tx.signatures ≠ Signatures.none := by
  let s := afterAll Curve.ed25519 submission (draft Transaction.deposited)
  obtain ⟨hash, hhash⟩ : ∃ hash, s.hash = some hash := ⟨_, rfl⟩
  obtain ⟨b, hraw⟩ : ∃ b, s.raw = .ok b := ⟨_, rfl⟩
  have hfits : s.tx.FitsMsgpack := { Transaction.fitsMsgpack_deposited with }
  have hsigs : s.tx.signatures.FitsMsgpack := Nat.one_lt_two_pow (by decide)
  obtain ⟨relayed, hdecode, hname, _, _, hbody⟩ :=
    relayed_of_raw (E := Curve.ed25519) rfl hhash (fun _ => ⟨hfits, hsigs⟩) hraw
  exact ⟨s, hash, b, relayed, rfl, hhash, hfits, hsigs, hraw, hdecode, hname, hbody (by decide),
    nofun⟩

end Session

end KernelWallet
