import KernelWallet.Key.Signing
import KernelWallet.Proofs.Curve
import KernelWallet.Proofs.Reading

/-! Keys made of scalars, and that what they sign is accepted under their public keys. A signature
that is accepted is the only one with its nonce point: no other response fits. -/

namespace KernelWallet

variable {E : Curve}

namespace Signature

variable (nonce response : Vector UInt8 32)

theorem nonce_ofParts : (ofParts nonce response).nonce = nonce := by
  refine Vector.ext fun i hi => ?_
  simp only [Signature.nonce, ofParts, Vector.getElem_cast, Vector.getElem_extract, Nat.zero_add]
  exact Vector.getElem_append_left hi

theorem response_ofParts : (ofParts nonce response).response = response := by
  refine Vector.ext fun i hi => ?_
  simp only [Signature.response, ofParts, Vector.getElem_cast, Vector.getElem_extract]
  rw [Vector.getElem_append_right (by omega) (by omega)]
  simp only [Nat.add_sub_cancel_left]

theorem ofParts_nonce_response (sig : Signature) : ofParts sig.nonce sig.response = sig := by
  have hbytes : (ofParts sig.nonce sig.response).bytes = sig.bytes := by
    refine Vector.ext fun i hi => ?_
    simp only [ofParts, Signature.nonce, Signature.response]
    by_cases hlt : i < 32
    · rw [Vector.getElem_append_left hlt]
      simp only [Vector.getElem_cast, Vector.getElem_extract, Nat.zero_add]
    · have hadd : 32 + (i - 32) = i := by omega
      rw [Vector.getElem_append_right hi (by omega)]
      simp only [Vector.getElem_cast, Vector.getElem_extract, hadd]
  cases sig
  exact (Signature.mk.injEq ..).mpr hbytes

end Signature

namespace Key

theorem scalar_ofScalar (s : Scalar) : (ofScalar s).scalar = .ok s := by
  rw [scalar, ofScalar, Scalar.ofBytes?_toBytes]

theorem scalar_eq_ok_iff {k : Key} {s : Scalar} : k.scalar = .ok s ↔ k = ofScalar s := by
  have hread : k.scalar = .ok s ↔ Scalar.ofBytes? k.bytes = some s := by
    rw [scalar]
    cases Scalar.ofBytes? k.bytes <;> simp
  cases k
  rw [hread, Scalar.ofBytes?_eq_some_iff, ofScalar, Key.mk.injEq]

theorem toNatLE_ofScalar (s : Scalar) : Bytes.toNatLE (ofScalar s).toBytes = s.val :=
  Scalar.toNatLE_toBytes s

theorem exists_scalar {a : Key} (h : Bytes.toNatLE a.toBytes < Scalar.order) :
    ∃ s, a.scalar = .ok s := by
  have hread : Scalar.ofBytes? a.bytes = some ⟨Bytes.toNatLE a.toBytes, h⟩ := dif_pos h
  exact ⟨_, by rw [scalar, hread]⟩

theorem exists_ofScalar {a : Key} (h : Bytes.toNatLE a.toBytes < Scalar.order) :
    ∃ s, a = ofScalar s := by
  obtain ⟨s, hs⟩ := exists_scalar h
  exact ⟨s, scalar_eq_ok_iff.mp hs⟩

theorem publicKey_ofScalar (s : Scalar) :
    (ofScalar s).publicKey E = .ok (ofBaseMultiple E s) := by
  rw [publicKey, scalar_ofScalar]
  rfl

theorem publicKey_eq_ok_iff {k publicKey : Key} :
    k.publicKey E = .ok publicKey ↔ ∃ s, k.scalar = .ok s ∧ publicKey = ofBaseMultiple E s := by
  rw [Key.publicKey, bind_eq_ok_iff]
  refine exists_congr fun s => and_congr_right fun _ => ?_
  exact ⟨fun h => (Except.ok.inj h).symm, fun h => by rw [h]; rfl⟩

theorem exists_sign {a : Key} {s : Scalar} (h : a.scalar = .ok s) (message : Bytes) :
    ∃ r : Scalar, a.sign E message = .ok (Signature.ofParts (E.compress (E.mulBase r))
      (Scalar.toBytes (Signature.challenge (E.compress (E.mulBase r)) (ofBaseMultiple E s).bytes
        message * s + r))) := by
  rw [sign, h]
  exact ⟨_, rfl⟩

/-- The response undoes the challenge: what is left of it is the nonce. -/
theorem verify_sign (hE : E.IsLawful) {a : Key} {s : Scalar} (h : a.scalar = .ok s)
    {message : Bytes} {sig : Signature} (hsig : a.sign E message = .ok sig) :
    (ofBaseMultiple E s).verify E message sig = true := by
  obtain ⟨r, hr⟩ := exists_sign (E := E) h message
  obtain rfl := Except.ok.inj (hsig.symm.trans hr)
  have hpoint : E.decompress (ofBaseMultiple E s).bytes = some (E.mulBase s) :=
    hE.decompress_compress _
  rw [verify, Signature.response_ofParts, hpoint, Scalar.ofBytes?_toBytes]
  simp only [Signature.nonce_ofParts, hE.smul_neg_add_mulBase, beq_self_eq_true]

theorem exists_sign_verify (hE : E.IsLawful) {a : Key} {s : Scalar} (h : a.scalar = .ok s)
    (message : Bytes) :
    ∃ sig, a.sign E message = .ok sig ∧ (ofBaseMultiple E s).verify E message sig = true := by
  obtain ⟨r, hsig⟩ := exists_sign (E := E) h message
  exact ⟨_, hsig, verify_sign hE h hsig⟩

/-- Every canonical scalar has a public key, under which all that it signs is accepted. -/
theorem exists_publicKey_verify (hE : E.IsLawful) {a : Key}
    (ha : Bytes.toNatLE a.toBytes < Scalar.order) (message : Bytes) (hash : Hash) :
    ∃ A, a.publicKey E = .ok A ∧
      (∃ sig, a.sign E message = .ok sig ∧ A.verify E message sig = true) ∧
      ∃ sig, a.signHash E hash = .ok sig ∧ A.verifyHash E hash sig = true := by
  obtain ⟨s, hs⟩ := exists_scalar ha
  exact ⟨ofBaseMultiple E s, publicKey_eq_ok_iff.mpr ⟨s, hs, rfl⟩, exists_sign_verify hE hs message,
    exists_sign_verify hE hs hash.toBytes⟩

/-- Also the zero key signs, and the empty message is signed. -/
theorem exists_publicKey_verify_seven :
    Curve.ofScalars.IsLawful ∧ Bytes.toNatLE (ofScalar 7).toBytes < Scalar.order ∧
      Bytes.toNatLE zero.toBytes < Scalar.order ∧
      (∃ A, (ofScalar 7).publicKey Curve.ofScalars = .ok A ∧
        (∃ sig, (ofScalar 7).sign Curve.ofScalars [1, 2, 3] = .ok sig ∧
          A.verify Curve.ofScalars [1, 2, 3] sig = true) ∧
        ∃ sig, (ofScalar 7).signHash Curve.ofScalars (Hash.sha3 [1, 2, 3]) = .ok sig ∧
          A.verifyHash Curve.ofScalars (Hash.sha3 [1, 2, 3]) sig = true) ∧
      ∃ A, zero.publicKey Curve.ofScalars = .ok A ∧
        (∃ sig, zero.sign Curve.ofScalars [] = .ok sig ∧
          A.verify Curve.ofScalars [] sig = true) ∧
        ∃ sig, zero.signHash Curve.ofScalars (Hash.sha3 []) = .ok sig ∧
          A.verifyHash Curve.ofScalars (Hash.sha3 []) sig = true :=
  have hseven : Bytes.toNatLE (ofScalar 7).toBytes < Scalar.order :=
    (toNatLE_ofScalar 7).trans_lt (7 : Scalar).isLt
  have hzero : Bytes.toNatLE zero.toBytes < Scalar.order := by decide
  ⟨Curve.isLawful_ofScalars, hseven, hzero,
    exists_publicKey_verify Curve.isLawful_ofScalars hseven [1, 2, 3] (Hash.sha3 [1, 2, 3]),
    exists_publicKey_verify Curve.isLawful_ofScalars hzero [] (Hash.sha3 [])⟩

/-! ## One response -/

section

variable {A : Key} {message : Bytes} {sig sig' : Signature}

theorem verify_eq_true_iff :
    A.verify E message sig = true ↔ ∃ p s, E.decompress A.bytes = some p ∧
      sig.response = Scalar.toBytes s ∧
      E.compress (E.add (E.smul (Signature.challenge sig.nonce A.bytes message) (E.neg p))
        (E.mulBase s)) = sig.nonce := by
  rw [verify]
  cases hpoint : E.decompress A.bytes with
  | none => simp
  | some p =>
    cases hscalar : Scalar.ofBytes? sig.response with
    | none =>
      refine iff_of_false (by simp) ?_
      rintro ⟨_, s, _, hresponse, _⟩
      rw [hresponse, Scalar.ofBytes?_toBytes] at hscalar
      exact absurd hscalar (by simp)
    | some s =>
      have hresponse := Scalar.ofBytes?_eq_some_iff.mp hscalar
      simp only [beq_iff_eq]
      constructor
      · exact fun h => ⟨p, s, rfl, hresponse, h⟩
      · rintro ⟨_, s', hp, hresponse', h⟩
        obtain rfl := Option.some.inj hp
        rw [hresponse', Scalar.ofBytes?_toBytes] at hscalar
        obtain rfl := Option.some.inj hscalar
        exact h

/-- The challenge does not depend on the response, so the nonce point leaves one multiple of the
base point to answer with. -/
theorem eq_of_verify (hE : E.IsGroup) (hbase : Function.Injective E.mulBase)
    (hcompress : Function.Injective E.compress) (hnonce : sig'.nonce = sig.nonce)
    (h : A.verify E message sig = true) (h' : A.verify E message sig' = true) : sig' = sig := by
  obtain ⟨p, s, hp, hresponse, hcheck⟩ := verify_eq_true_iff.mp h
  obtain ⟨p', s', hp', hresponse', hcheck'⟩ := verify_eq_true_iff.mp h'
  obtain rfl := Option.some.inj (hp'.symm.trans hp)
  rw [hnonce] at hcheck'
  have hmultiple := hE.add_left_cancel (hcompress (hcheck'.trans hcheck.symm))
  obtain rfl := hbase hmultiple
  rw [← Signature.ofParts_nonce_response sig', hnonce, hresponse', ← hresponse,
    Signature.ofParts_nonce_response]

/-- Of all signatures with one nonce point at most one is accepted for a message, so whatever else
is written in the place of the response is refused. -/
theorem unique_response_of_verify (hE : E.IsGroup) (hbase : Function.Injective E.mulBase)
    (hcompress : Function.Injective E.compress) (h : A.verify E message sig = true) :
    (∀ sig' : Signature, sig'.nonce = sig.nonce → A.verify E message sig' = true → sig' = sig) ∧
      ∀ response, response ≠ sig.response →
        A.verify E message (Signature.ofParts sig.nonce response) = false := by
  refine ⟨fun sig' hnonce => eq_of_verify hE hbase hcompress hnonce h, fun response hne => ?_⟩
  rw [← Bool.not_eq_true]
  intro h'
  have heq := eq_of_verify hE hbase hcompress (Signature.nonce_ofParts ..) h h'
  rw [← heq, Signature.response_ofParts] at hne
  exact hne rfl

end

/-- The response with the order added to it stands for the same scalar, and is refused. -/
theorem unique_response_of_verify_shifted :
    Curve.ofScalars.IsGroup ∧ Function.Injective Curve.ofScalars.mulBase ∧
      Function.Injective Curve.ofScalars.compress ∧
      ∃ A sig, (ofScalar 7).publicKey Curve.ofScalars = .ok A ∧
        (ofScalar 7).sign Curve.ofScalars [1, 2, 3] = .ok sig ∧
        A.verify Curve.ofScalars [1, 2, 3] sig = true ∧
        A.verify Curve.ofScalars [1, 2, 3] (Signature.ofParts sig.nonce (Bytes.vectorLE 32
          (Bytes.toNatLE sig.response.toList + Scalar.order))) = false := by
  have hE := Curve.isLawful_ofScalars
  have hbase : Function.Injective Curve.ofScalars.mulBase := fun s t h => by
    simpa [Curve.mulBase, Curve.ofScalars] using h
  have hcompress : Function.Injective Curve.ofScalars.compress := fun _ _ => hE.compress_inj.mp
  obtain ⟨sig, hsig, hverify⟩ := exists_sign_verify hE (scalar_ofScalar 7) [1, 2, 3]
  refine ⟨hE.isGroup, hbase, hcompress, _, sig, publicKey_ofScalar 7, hsig, hverify, ?_⟩
  refine (unique_response_of_verify hE.isGroup hbase hcompress hverify).2 _ fun heq => ?_
  obtain ⟨_, s, _, hresponse, _⟩ := verify_eq_true_iff.mp hverify
  have hvalue := congrArg (fun v => Bytes.toNatLE v.toList) heq
  have hlt : s.val + Scalar.order < 256 ^ 32 := (Nat.add_lt_add_right s.isLt _).trans (by decide)
  simp only [hresponse, Scalar.toNatLE_toBytes] at hvalue
  have hshifted : Bytes.toNatLE (Bytes.vectorLE 32 (s.val + Scalar.order)).toList =
      s.val + Scalar.order :=
    (Bytes.toNatLE_ofNatLE 32 _).trans (Nat.mod_eq_of_lt hlt)
  have hpos : 0 < Scalar.order := by decide
  omega

end Key

end KernelWallet
