import KernelWallet.Command.Run
import KernelWallet.Proofs.Key

/-! The ways to an account and to its address agree: through scalars, through the keys that encode
them, or from the public spend key alone. What one way encodes the other reads back, so the spend
scalar decides the account. -/

namespace KernelWallet

variable {E : Curve}

theorem Address.ofPublicSpend_eq (publicSpend : Key) :
    ofPublicSpend E publicSpend =
      .ok ⟨publicSpend, Key.ofBaseMultiple E (Key.viewScalar publicSpend)⟩ := by
  rw [ofPublicSpend, Key.viewKey, Key.publicKey_ofScalar]
  rfl

namespace Account

theorem ofPrivateSpend_eq_ok_iff {privateSpend : Key} {a : Account} :
    ofPrivateSpend E privateSpend = .ok a ↔
      ∃ b, privateSpend.scalar = .ok b ∧ a = ofSpendScalar E b := by
  rw [ofPrivateSpend, bind_eq_ok_iff]
  simp only [mapError_eq_ok_iff]
  exact exists_congr fun b => and_congr_right fun _ =>
    ⟨fun h => (Except.ok.inj h).symm, fun h => congrArg _ h.symm⟩

theorem ofKeys_ofScalar (spend view : Scalar) :
    ofKeys E (Key.ofScalar spend) (Key.ofScalar view) = .ok (ofScalars E spend view) := by
  rw [ofKeys, Key.scalar_ofScalar, Key.scalar_ofScalar]
  rfl

/-! ## The account of a spend scalar -/

theorem ofPrivateSpend_ofScalar (spend : Scalar) :
    ofPrivateSpend E (Key.ofScalar spend) = .ok (ofSpendScalar E spend) :=
  ofPrivateSpend_eq_ok_iff.mpr ⟨spend, Key.scalar_ofScalar spend, rfl⟩

theorem ofKeys_viewKey (spend : Scalar) :
    ofKeys E (Key.ofScalar spend) (Key.viewKey (Key.ofBaseMultiple E spend)) =
      .ok (ofSpendScalar E spend) :=
  ofKeys_ofScalar spend _

theorem ofPublicSpend_ofBaseMultiple (spend : Scalar) :
    Address.ofPublicSpend E (Key.ofBaseMultiple E spend) = .ok (ofSpendScalar E spend).address :=
  Address.ofPublicSpend_eq _

/-- A random account draws the bytes that a random key draws, and is the account of that key. -/
theorem ofPrivateSpend_random (e : Entropy) :
    ofPrivateSpend E (Key.random e).1 = .ok (random E e).1 ∧
      (Key.random e).2 = (random E e).2 :=
  ⟨ofPrivateSpend_ofScalar _, rfl⟩

end Account

/-! ## What is printed -/

namespace Command

theorem renderAddress_privateSpend {privateSpend : Key} {a : Account}
    (h : Account.ofPrivateSpend E privateSpend = .ok a) :
    renderAddress E (.privateSpend privateSpend) = .ok (describe a.address) := by
  rw [renderAddress, h]
  rfl

theorem renderAddress_publicSpend {publicSpend : Key} {a : Address}
    (h : Address.ofPublicSpend E publicSpend = .ok a) :
    renderAddress E (.publicSpend publicSpend) = .ok (describe a) := by
  rw [renderAddress, h]
  rfl

variable {m : Type → Type} [Monad m]

theorem run_address {source : AddressSource} {text : String}
    (h : renderAddress E source = .ok text) (transport : Http.Transport m)
    (around : Surroundings) :
    run E transport around (.address source) =
      pure { stdout := "\n" ++ (text ++ "\n"), error := none } := by
  rw [run, h]
  rfl

end Command

/-- A canonical spend key has a public key and an account. The address of the account is the one of
the public key, its view key the one derived from the public key, and both private keys together
make the account again, so that the command prints the same for either spend key. A random account
is the account of the key that is drawn from the same bytes. -/
theorem Account.exists_ofPrivateSpend_ofPublicSpend {b : Key}
    (hb : Bytes.toNatLE b.toBytes < Scalar.order) :
    (∃ publicSpend a, b.publicKey E = .ok publicSpend ∧
      ofPrivateSpend E b = .ok a ∧
      Address.ofPublicSpend E publicSpend = .ok a.address ∧
      a.privateSpend = b ∧ a.privateView = Key.viewKey publicSpend ∧
      ofKeys E b (Key.viewKey publicSpend) = .ok a ∧
      ∀ (m : Type → Type) [Monad m] (transport : Http.Transport m)
        (around : Command.Surroundings),
        ∀ source ∈ [Command.AddressSource.privateSpend b, .publicSpend publicSpend],
          Command.run E transport around (.address source) =
            pure { stdout := "\n" ++ (Command.describe a.address ++ "\n"), error := none }) ∧
      ∀ e : Entropy, ofPrivateSpend E (Key.random e).1 = .ok (random E e).1 ∧
        (Key.random e).2 = (random E e).2 := by
  obtain ⟨spend, rfl⟩ := Key.exists_ofScalar hb
  have haccount := ofPrivateSpend_ofScalar (E := E) spend
  have haddress := ofPublicSpend_ofBaseMultiple (E := E) spend
  refine ⟨⟨Key.ofBaseMultiple E spend, ofSpendScalar E spend, Key.publicKey_ofScalar spend,
    haccount, haddress, rfl, rfl, ofKeys_viewKey spend, ?_⟩, ofPrivateSpend_random⟩
  intro m _ transport around source hsource
  apply Command.run_address
  rcases List.mem_pair.mp hsource with rfl | rfl
  · exact Command.renderAddress_privateSpend haccount
  · exact Command.renderAddress_publicSpend haddress

/-- On the curve itself, for the greatest canonical key. -/
theorem Account.exists_ofPrivateSpend_ofPublicSpend_greatest :
    let b : Key := ⟨Bytes.vectorLE 32 (Scalar.order - 1)⟩
    Bytes.toNatLE b.toBytes < Scalar.order ∧
      ∃ publicSpend a, b.publicKey Curve.ed25519 = .ok publicSpend ∧
        ofPrivateSpend Curve.ed25519 b = .ok a ∧
        Address.ofPublicSpend Curve.ed25519 publicSpend = .ok a.address ∧
        ofKeys Curve.ed25519 b (Key.viewKey publicSpend) = .ok a := by
  intro b
  have hb : Bytes.toNatLE b.toBytes < Scalar.order := by decide +kernel
  obtain ⟨⟨publicSpend, a, hpublic, haccount, haddress, _, _, hkeys, _⟩, _⟩ :=
    exists_ofPrivateSpend_ofPublicSpend (E := Curve.ed25519) hb
  exact ⟨hb, publicSpend, a, hpublic, haccount, haddress, hkeys⟩

end KernelWallet
