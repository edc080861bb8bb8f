import KernelWallet.Proofs.Legacy
import KernelWallet.Proofs.Validation
import KernelWallet.Proofs.Wire.ReadsBack

/-! The bytes that a transaction is named by determine everything that is written of it, whatever
the length of its extra. -/

namespace KernelWallet

namespace Wire

theorem exists_count_of_writeExtra {version : UInt8} {extra b : Bytes}
    (h : writeExtra version extra = .ok b) :
    ∃ count : Bytes, count.length = (if Version.references ≤ version then 4 else 2) ∧
      b = count ++ extra := by
  rw [writeExtra] at h
  split at h
  · next hv =>
    split at h
    · obtain rfl := Except.ok.inj h
      exact ⟨Bytes.ofNatBE 4 extra.length, by simp [hv], rfl⟩
    · exact absurd h (by simp)
  · next hv =>
    obtain ⟨count, hcount, h⟩ := bind_eq_ok_iff.mp h
    obtain rfl := Except.ok.inj h
    obtain ⟨_, rfl⟩ := writeCount_eq_ok_iff.mp hcount
    exact ⟨Bytes.ofNatBE 2 extra.length, by simp [hv], rfl⟩

/-- The end of an extra shows in what follows it, so its length needs no bound. -/
theorem eq_of_writeExtra {version : UInt8} {extra extra' b b' rest : Bytes}
    (h : writeExtra version extra = .ok b) (h' : writeExtra version extra' = .ok b')
    (heq : b ++ rest = b' ++ rest) : extra = extra' := by
  obtain ⟨count, hlen, rfl⟩ := exists_count_of_writeExtra h
  obtain ⟨count', hlen', rfl⟩ := exists_count_of_writeExtra h'
  exact (List.append_inj (List.append_cancel_right heq) (hlen.trans hlen'.symm)).2

theorem onWire_payload_of_writeBody {t t' : Transaction} {b : Bytes}
    (hv : t.version = t'.version) (h : writeBody t.payload = .ok b)
    (h' : writeBody t'.payload = .ok b) : t.payload.onWire = t'.payload.onWire := by
  obtain ⟨inputs, outputs, references, extra, sigs, rfl, hins, houts, hrefs, hextra, hsigs⟩ :=
    exists_parts h
  obtain ⟨inputs', outputs', references', extra', sigs', heq, hins', houts', hrefs', hextra',
    hsigs'⟩ := exists_parts h'
  obtain rfl := Except.ok.inj (hsigs.symm.trans hsigs')
  change Reads (readList (readOutput t.version)) _ _ at houts
  change Reads (readReferences t.version) _ _ at hrefs
  change writeExtra t.version t.extra = _ at hextra
  rw [hv] at houts hrefs hextra
  obtain ⟨hasset, heq⟩ := (reads_hash _).unique (reads_hash _) heq
  obtain ⟨hin, heq⟩ := hins.unique hins' heq
  obtain ⟨hout, heq⟩ := houts.unique houts' heq
  obtain ⟨href, heq⟩ := hrefs.unique hrefs' heq
  have hext := eq_of_writeExtra hextra hextra' heq
  rw [Transaction.onWire, Transaction.onWire, Transaction.mk.injEq]
  exact ⟨hv, hasset, hin, hout, href, hext, rfl⟩

theorem exists_of_encodePayload {tx : Transaction} {b : Bytes}
    (hv : ¬ tx.version < Version.binary) (h : tx.encodePayload = .ok b) :
    ∃ body, writeBody tx.payload = .ok body ∧ b = header tx.version ++ body := by
  rw [Transaction.encodePayload, if_neg hv] at h
  exact (write_eq_ok_iff.mp h).2

/-! ## What is not written makes no difference -/

theorem writeWithdrawal_onWire (version : UInt8) (w : Withdrawal) :
    writeWithdrawal version (w.onWire version) = writeWithdrawal version w := by
  rw [Withdrawal.onWire]
  split
  · rfl
  · next hv =>
    rw [writeWithdrawal, writeWithdrawal, writeSource, writeSource, if_neg hv, if_neg hv]

theorem writeOutput_onWire (version : UInt8) (o : Output) :
    writeOutput version (o.onWire version) = writeOutput version o := by
  have hwithdrawal : writeOption (writeWithdrawal version) (o.onWire version).withdrawal =
      writeOption (writeWithdrawal version) o.withdrawal := by
    rw [Output.onWire]
    cases o.withdrawal with
    | none => rfl
    | some w => simp only [Option.map_some, writeOption, writeWithdrawal_onWire]
  rw [writeOutput, writeOutput, hwithdrawal]
  rfl

theorem writeAll_map_onWire (version : UInt8) (outputs : List Output) :
    writeAll (writeOutput version) (outputs.map (Output.onWire version)) =
      writeAll (writeOutput version) outputs := by
  have hwrite : writeOutput version ∘ Output.onWire version = writeOutput version :=
    funext (writeOutput_onWire version)
  rw [writeAll, List.mapM_map, hwrite]
  rfl

theorem writeReferences_onWire (version : UInt8) (refs : List Hash) :
    writeReferences version (if Version.references ≤ version then refs else []) =
      writeReferences version refs := by
  by_cases hv : Version.references ≤ version
  · rw [if_pos hv]
  · rw [if_neg hv, writeReferences, writeReferences, if_neg hv, if_neg hv]

theorem write_onWire (tx : Transaction) : write tx.onWire = write tx := by
  rw [write, write, writeBody, writeBody]
  simp only [Transaction.onWire, List.length_map, writeAll_map_onWire, writeReferences_onWire]

end Wire

namespace Legacy

theorem head?_of_encodePayload {tx : Transaction} {b : Bytes} (hv : tx.version < Version.binary)
    (h : tx.encodePayload = .ok b) : b = writePayload tx ∧ b.head? = some 0x85 := by
  rw [Transaction.encodePayload, if_pos hv] at h
  obtain rfl := Except.ok.inj h
  exact ⟨rfl, rfl⟩

end Legacy

namespace Transaction

theorem map_onWire {tx : Transaction} (hv : tx.version < Version.shortWithdrawals) :
    tx.outputs.map (Output.onWire tx.version) = tx.outputs := by
  have hwithdrawal : Withdrawal.onWire tx.version = id := funext fun _ => if_pos hv
  have houtput : Output.onWire tx.version = id := by
    funext o
    rw [Output.onWire, hwithdrawal, Option.map_id]
    rfl
  rw [houtput, List.map_id]

theorem onWire_payload (tx : Transaction) :
    tx.payload.onWire =
      { tx with
        outputs := tx.outputs.map (Output.onWire tx.version)
        references := if Version.references ≤ tx.version then tx.references else []
        signatures := Signatures.none } :=
  rfl

theorem onWire_of_lt_binary {tx : Transaction} (hv : tx.version < Version.binary) :
    tx.onWire = { tx with references := [] } := by
  have hshort : tx.version < Version.shortWithdrawals := UInt8.lt_trans hv (by decide)
  have hrefs : ¬ Version.references ≤ tx.version :=
    UInt8.not_le.mpr (UInt8.lt_trans hv (by decide))
  rw [onWire, map_onWire hshort, if_neg hrefs]

/-- What is written of a transaction has its name. -/
theorem payloadHash_onWire (tx : Transaction) : tx.onWire.payloadHash = tx.payloadHash := by
  have hencode : tx.onWire.encodePayload = tx.encodePayload := by
    have hversion : tx.onWire.version = tx.version := rfl
    rw [encodePayload, encodePayload, hversion]
    by_cases hv : tx.version < Version.binary
    · have hwrite : Legacy.writePayload tx.onWire = Legacy.writePayload tx := by
        rw [onWire_of_lt_binary hv]
        rfl
      rw [if_pos hv, if_pos hv, hwrite]
    · rw [if_neg hv, if_neg hv]
      exact Wire.write_onWire tx.payload
  rw [payloadHash, payloadHash, hencode]
  rfl

theorem onWire_payload_of_lt_binary {tx : Transaction} (hv : tx.version < Version.binary) :
    tx.payload.onWire = { tx with references := [], signatures := Signatures.none } :=
  @onWire_of_lt_binary tx.payload hv

theorem lt_binary_iff_of_encodePayload {t t' : Transaction} {b : Bytes}
    (h : t.encodePayload = .ok b) (h' : t'.encodePayload = .ok b) :
    t.version < Version.binary ↔ t'.version < Version.binary := by
  by_cases hv : t.version < Version.binary <;> by_cases hv' : t'.version < Version.binary
  · exact iff_of_true hv hv'
  · obtain ⟨body, _, rfl⟩ := Wire.exists_of_encodePayload hv' h'
    exact absurd (Legacy.head?_of_encodePayload hv h).2 (by simp [Wire.header, Marker.present])
  · obtain ⟨body, _, rfl⟩ := Wire.exists_of_encodePayload hv h
    exact absurd (Legacy.head?_of_encodePayload hv' h').2 (by simp [Wire.header, Marker.present])
  · exact iff_of_false hv hv'

theorem onWire_payload_of_encodePayload {t t' : Transaction} {b : Bytes}
    (hfit : t.version < Version.binary → t.FitsMsgpack ∧ t'.FitsMsgpack)
    (h : t.encodePayload = .ok b) (h' : t'.encodePayload = .ok b) :
    t.payload.onWire = t'.payload.onWire := by
  have hform := lt_binary_iff_of_encodePayload h h'
  by_cases hv : t.version < Version.binary
  · have hv' := hform.mp hv
    obtain ⟨hfit, hfit'⟩ := hfit hv
    obtain ⟨rfl, _⟩ := Legacy.head?_of_encodePayload hv h
    obtain ⟨heq, _⟩ := Legacy.head?_of_encodePayload hv' h'
    have hread := Legacy.read_writePayload hv hfit
    rw [heq, Legacy.read_writePayload hv' hfit'] at hread
    rw [onWire_payload_of_lt_binary hv, onWire_payload_of_lt_binary hv']
    exact (Except.ok.inj hread).symm
  · obtain ⟨body, hbody, rfl⟩ := Wire.exists_of_encodePayload hv h
    obtain ⟨body', hbody', heq⟩ := Wire.exists_of_encodePayload (mt hform.mpr hv) h'
    have hsplit := congrArg Wire.splitHeader? heq
    rw [Wire.splitHeader?_header, Wire.splitHeader?_header] at hsplit
    obtain ⟨hversion, rfl⟩ := Prod.mk.inj (Option.some.inj hsplit)
    exact Wire.onWire_payload_of_writeBody hversion hbody hbody'

theorem references_onWire {E : Curve} {tx : Transaction} (h : tx.validate E = .ok ()) :
    (if Version.references ≤ tx.version then tx.references else []) = tx.references := by
  split
  · rfl
  · next hv => exact ((validate_eq_ok_iff.mp h).references_eq_nil (UInt8.not_le.mp hv)).symm

/-- Transactions with the same payload bytes are of the same form, and if their lengths have room
in that form they differ at most in what their version does not write. -/
theorem eq_of_encodePayload {t t' : Transaction} {b : Bytes} (h : t.encodePayload = .ok b)
    (h' : t'.encodePayload = .ok b) :
    (t.version < Version.binary ↔ t'.version < Version.binary) ∧
      ((t.version < Version.binary → t.FitsMsgpack ∧ t'.FitsMsgpack) →
        (t.version = t'.version ∧ t.asset = t'.asset ∧ t.inputs = t'.inputs ∧
          t.extra = t'.extra ∧
          (Version.references ≤ t.version → t.references = t'.references) ∧
          t.outputs.map (Output.onWire t.version) = t'.outputs.map (Output.onWire t'.version) ∧
          (t.version < Version.shortWithdrawals → t.outputs = t'.outputs)) ∧
        ∀ E : Curve, t.validate E = .ok () → t'.validate E = .ok () →
          { t.payload with outputs := t.outputs.map (Output.onWire t.version) } =
            { t'.payload with outputs := t'.outputs.map (Output.onWire t'.version) }) := by
  refine ⟨lt_binary_iff_of_encodePayload h h', fun hfit => ?_⟩
  have heq := onWire_payload_of_encodePayload hfit h h'
  rw [onWire_payload, onWire_payload, mk.injEq] at heq
  obtain ⟨hversion, hasset, hinputs, houtputs, hrefs, hextra, _⟩ := heq
  refine ⟨⟨hversion, hasset, hinputs, hextra, ?_, houtputs, ?_⟩, ?_⟩
  · intro hv
    rwa [if_pos hv, if_pos (hversion ▸ hv)] at hrefs
  · intro hv
    rwa [map_onWire hv, map_onWire (hversion ▸ hv)] at houtputs
  · intro E hvalid hvalid'
    rw [references_onWire hvalid, references_onWire hvalid'] at hrefs
    exact (mk.injEq ..).mpr ⟨hversion, hasset, hinputs, houtputs, hrefs, hextra, rfl⟩

/-- A deposit in the first version of the msgpack form. -/
def deposited : Transaction where
  version := 1
  asset := Hash.zero
  inputs := [Input.ofDeposit ⟨Hash.zero, "a", "", 5, Amount.ofUInt64 5⟩]
  outputs := [Output.ofWithdrawal (Amount.ofUInt64 5) ⟨Hash.zero, "k", "to", ""⟩]

theorem fitsMsgpack_deposited : deposited.FitsMsgpack where
  inputCount := by decide
  inputs := by
    refine List.forall_mem_singleton.mpr ⟨by decide, fun d hd => ?_, fun m hm => nomatch hm⟩
    obtain rfl := Option.some.inj hd
    exact ⟨by decide, by decide⟩
  outputCount := by decide
  outputs := by
    refine List.forall_mem_singleton.mpr ⟨by decide, by decide, fun w hw => ?_⟩
    obtain rfl := Option.some.inj hw
    exact ⟨by decide, by decide, by decide⟩
  extra := by decide

/-- References are not written in the msgpack form, so these do not show in the payload. -/
def referring : Transaction := { deposited with references := [Hash.zero] }

theorem eq_of_encodePayload_referring :
    ∃ b, deposited.encodePayload = .ok b ∧ referring.encodePayload = .ok b ∧
      deposited.FitsMsgpack ∧ referring.FitsMsgpack ∧
      deposited.version = referring.version ∧ deposited.asset = referring.asset ∧
      deposited.inputs = referring.inputs ∧ deposited.extra = referring.extra ∧
      deposited.outputs = referring.outputs ∧ deposited.references ≠ referring.references := by
  have h : deposited.encodePayload = .ok (Legacy.writePayload deposited) := rfl
  have h' : referring.encodePayload = .ok (Legacy.writePayload deposited) := rfl
  have hfit : referring.FitsMsgpack := { fitsMsgpack_deposited with }
  obtain ⟨⟨hversion, hasset, hinputs, hextra, _, _, houtputs⟩, _⟩ :=
    (eq_of_encodePayload h h').2 fun _ => ⟨fitsMsgpack_deposited, hfit⟩
  exact ⟨_, h, h', fitsMsgpack_deposited, hfit, hversion, hasset, hinputs, hextra,
    houtputs (by decide), by decide⟩

end Transaction

end KernelWallet
