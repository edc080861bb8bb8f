import KernelWallet.Proofs.Ghost
import KernelWallet.Proofs.Hex

/-! Every key that is derived is a canonical scalar: it reads back as the scalar that it was made
of, so nothing that is done with it fails because it is none. -/

namespace KernelWallet

variable {E : Curve}

/-! ## What fails for want of a canonical scalar -/

theorem Key.point_ne_nonCanonicalScalar (k : Key) : k.point E ≠ .error .nonCanonicalScalar := by
  rw [Key.point]
  split <;> simp

namespace Ghost

variable {index version : UInt8} {mask view spend : Key}

/-- The mask is read as a point, so that only the view and the spend key can be no canonical
scalars. -/
theorem privateKey_ne_nonCanonicalScalar (hview : view.scalar ≠ .error .nonCanonicalScalar)
    (hspend : spend.scalar ≠ .error .nonCanonicalScalar) :
    privateKey E mask view spend index version ≠ .error .nonCanonicalScalar := by
  rw [privateKey]
  refine bind_ne_error hview fun a => ?_
  refine bind_ne_error mask.point_ne_nonCanonicalScalar fun r => ?_
  exact bind_ne_error hspend fun b => pure_ne_error _ _

end Ghost

namespace Key

/-- Whatever takes a scalar takes this key. Where a derivation takes another scalar too, it fails
for want of a canonical one only if the other is none. -/
structure IsUsable (E : Curve) (k : Key) : Prop where
  publicKey : ∃ A, k.publicKey E = .ok A
  sign (message : Bytes) : ∃ sig, k.sign E message = .ok sig
  view (mask spend : Key) (index version : UInt8) :
    Ghost.privateKey E mask k spend index version = .error .nonCanonicalScalar →
      spend.scalar = .error .nonCanonicalScalar
  spend (mask view : Key) (index version : UInt8) :
    Ghost.privateKey E mask view k index version = .error .nonCanonicalScalar →
      view.scalar = .error .nonCanonicalScalar

theorem isUsable_ofScalar (s : Scalar) : (ofScalar s).IsUsable E := by
  have hs := scalar_ofScalar s
  have hne : (ofScalar s).scalar ≠ .error .nonCanonicalScalar := by
    simp [hs]
  refine ⟨⟨_, publicKey_ofScalar s⟩, fun message => ?_, fun _ _ _ _ h => ?_, fun _ _ _ _ h => ?_⟩
  · obtain ⟨_, hsig⟩ := exists_sign hs message
    exact ⟨_, hsig⟩
  · by_contra hspend
    exact Ghost.privateKey_ne_nonCanonicalScalar hne hspend h
  · by_contra hview
    exact Ghost.privateKey_ne_nonCanonicalScalar hview hne h

/-- The key is the canonical encoding of what a number leaves modulo the order. -/
structure Encodes (E : Curve) (k : Key) (n : Nat) : Prop where
  value : Bytes.toNatLE k.toBytes = n % Scalar.order
  scalar : k.scalar = .ok (Scalar.reduce n)
  isUsable : k.IsUsable E

theorem encodes_ofScalar (n : Nat) : (ofScalar (Scalar.reduce n)).Encodes E n :=
  ⟨toNatLE_ofScalar _, scalar_ofScalar _, isUsable_ofScalar _⟩

/-! ## Derivations -/

theorem ofHex_of_length {s : String} {b : Bytes} (hs : Hex.decode? s = some b)
    (hlen : b.length = 64) : ofHex s = .ok (ofScalar (Scalar.ofSeed (b.take 32))) := by
  simp only [ofHex, hs, hlen, if_true]

theorem encodes_of_privateKey {mask view spend k : Key} {index version : UInt8}
    (h : Ghost.privateKey E mask view spend index version = .ok k) :
    ∃ a r b, view.scalar = .ok a ∧ mask.point E = .ok r ∧ spend.scalar = .ok b ∧
      k.Encodes E ((Ghost.sharedTweak E a r index version).val + b.val) := by
  obtain ⟨a, r, b, ha, hr, hb, rfl⟩ := Ghost.privateKey_eq_ok_iff.mp h
  exact ⟨a, r, b, ha, hr, hb, encodes_ofScalar _⟩

/-- The keys of seeds, of hex texts of 64 bytes, of public spend keys and of outputs are canonical
scalars: what the bytes, the clamped half of a digest or the sum leave modulo the order. -/
theorem encodes_derived (E : Curve) :
    (∀ seed : Vector UInt8 64, (ofSeed64 seed).Encodes E (Bytes.toNatLE seed.toList)) ∧
    (∀ seed : Vector UInt8 32, (ofEd25519Seed seed).Encodes E
      (Scalar.clamp (Bytes.toNatLE ((Sha512.digest seed.toList).toList.take 32)))) ∧
    (∀ s b, Hex.decode? s = some b → b.length = 64 → ∃ k, ofHex s = .ok k ∧ k.Encodes E
      (Scalar.clamp (Bytes.toNatLE ((Sha512.digest (b.take 32)).toList.take 32)))) ∧
    (∀ publicSpend, (viewKey publicSpend).Encodes E (Bytes.toNatLE
      ((Hash.sha3 publicSpend.toBytes).toBytes ++ (Hash.sha3 publicSpend.toBytes).toBytes))) ∧
    ∀ mask view spend index version k, Ghost.privateKey E mask view spend index version = .ok k →
      ∃ a r b, view.scalar = .ok a ∧ mask.point E = .ok r ∧ spend.scalar = .ok b ∧
        k.Encodes E ((Ghost.sharedTweak E a r index version).val + b.val) := by
  refine ⟨fun _ => encodes_ofScalar _, fun _ => encodes_ofScalar _, fun s b hs hlen => ?_,
    fun _ => encodes_ofScalar _, fun _ _ _ _ _ _ => encodes_of_privateKey⟩
  exact ⟨_, ofHex_of_length hs hlen, encodes_ofScalar _⟩

/-- A hex text of the greatest bytes, and an output that is derived with the greatest scalar. -/
theorem encodes_derived_greatest :
    (∃ b, Hex.decode? (Hex.encode (List.replicate 64 0xFF)) = some b ∧ b.length = 64 ∧
      ∃ k, ofHex (Hex.encode (List.replicate 64 0xFF)) = .ok k ∧ k.Encodes Curve.ofScalars
        (Scalar.clamp (Bytes.toNatLE ((Sha512.digest (b.take 32)).toList.take 32)))) ∧
    ∃ k, Ghost.privateKey Curve.ofScalars (ofPoint Curve.ofScalars (7 : Scalar)) (ofScalar (-1))
        (ofScalar 5) 200 5 = .ok k ∧
      ∃ a r b, (ofScalar (-1)).scalar = .ok a ∧
        (ofPoint Curve.ofScalars (7 : Scalar)).point Curve.ofScalars = .ok r ∧
        (ofScalar 5).scalar = .ok b ∧ k.Encodes Curve.ofScalars
          ((Ghost.sharedTweak Curve.ofScalars a r 200 5).val + b.val) := by
  obtain ⟨_, _, hhex, _, hghost⟩ := encodes_derived Curve.ofScalars
  constructor
  · have hs := Hex.decode?_encode (List.replicate 64 0xFF)
    exact ⟨_, hs, List.length_replicate, hhex _ _ hs List.length_replicate⟩
  · have hmask : (ofPoint Curve.ofScalars (7 : Scalar)).point Curve.ofScalars = .ok (7 : Scalar) :=
      point_ofPoint (Curve.decompress_compress_ofScalars 7)
    have hk := @Ghost.privateKey_ofScalar Curve.ofScalars 200 5 _ _ hmask (-1) 5
    exact ⟨_, hk, hghost _ _ _ _ _ _ hk⟩

end Key

end KernelWallet
