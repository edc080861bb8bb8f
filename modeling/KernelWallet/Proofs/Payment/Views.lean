import KernelWallet.Proofs.Payment.Receiving
import KernelWallet.Proofs.Payment.Spend

/-! Views that an account derives for others to sign with. A view is the one-time key of an output
as a zero spend scalar makes it, so that the spend scalar added to it gives the one-time key of the
account. Signing with the views is then signing with the account, whatever comes of it. -/

namespace KernelWallet

variable {E : Curve}

/-- The view scalar of an output, with which whoever has the spend scalar can sign. -/
def Account.viewOf (E : Curve) (a : Account) (o : Spendable) : Except KeyError Key :=
  Ghost.privateKey E o.mask a.privateView Key.zero o.index o.version

/-- The one-time key of the account for an output. -/
def Account.oneTimeKeyOf (E : Curve) (a : Account) (o : Spendable) : Except PaymentError Key :=
  (Ghost.privateKey E o.mask a.privateView a.privateSpend o.index o.version).mapError .key

theorem Key.zero_eq_ofScalar : Key.zero = Key.ofScalar 0 := by
  decide

namespace Account

variable {a : Account} {o : Spendable} {v : Scalar} {mask : E.Point}

/-- A view is the tweak of the output alone. -/
theorem viewOf_eq (hview : a.privateView.scalar = .ok v) (hmask : o.mask.point E = .ok mask) :
    a.viewOf E o = .ok (Key.ofScalar (Ghost.sharedTweak E v mask o.index o.version)) := by
  rw [viewOf, Key.scalar_eq_ok_iff.mp hview, Key.zero_eq_ofScalar,
    Ghost.privateKey_ofScalar hmask, Fin.add_zero]

/-- The spend scalar is added to the view by whoever signs, or to the tweak by the account. If it
cannot be read, both say so. -/
theorem oneTimeKey_view (hview : a.privateView.scalar = .ok v) (hmask : o.mask.point E = .ok mask) :
    Session.oneTimeKey (Key.ofScalar (Ghost.sharedTweak E v mask o.index o.version))
      a.privateSpend = a.oneTimeKeyOf E o := by
  rw [Session.oneTimeKey, oneTimeKeyOf, Ghost.privateKey, hview, hmask, Key.scalar_ofScalar]
  cases a.privateSpend.scalar <;> rfl

theorem exists_viewOf (hview : a.privateView.scalar = .ok v) (hmask : o.mask.isPoint E = true) :
    ∃ view, a.viewOf E o = .ok view ∧
      Session.oneTimeKey view a.privateSpend = a.oneTimeKeyOf E o := by
  obtain ⟨mask, hmask⟩ := Key.exists_point hmask
  exact ⟨_, viewOf_eq hview hmask, oneTimeKey_view hview hmask⟩

/-- However an account is made, its private view is the canonical form of a scalar. -/
theorem toNatLE_privateView_lt (ha : (∃ b v, ofKeys E b v = .ok a) ∨
    (∃ b, ofPrivateSpend E b = .ok a) ∨ ∃ e, (random E e).1 = a) :
    Bytes.toNatLE a.privateView.toBytes < Scalar.order := by
  obtain ⟨spend, view, rfl⟩ : ∃ spend view, a = ofScalars E spend view := by
    rcases ha with ⟨b, v, h⟩ | ⟨b, h⟩ | ⟨e, rfl⟩
    · obtain ⟨spend, _, h⟩ := bind_eq_ok_iff.mp h
      obtain ⟨view, _, h⟩ := bind_eq_ok_iff.mp h
      exact ⟨spend, view, (Except.ok.inj h).symm⟩
    · obtain ⟨spend, _, rfl⟩ := ofPrivateSpend_eq_ok_iff.mp h
      exact ⟨spend, _, rfl⟩
    · exact ⟨_, _, rfl⟩
  rw [ofScalars, Key.toNatLE_ofScalar]
  exact view.isLt

end Account

namespace Session

/-- Outputs that get the same keys, one by one, are signed alike. -/
theorem signEach_congr {α β : Type} {oneTime : α → Except PaymentError Key} {output : α → Spendable}
    {oneTime' : β → Except PaymentError Key} {output' : β → Spendable} {l : List α} {l' : List β}
    (h : List.Forall₂ (fun a b => oneTime a = oneTime' b ∧ output a = output' b) l l')
    (hash : Hash) (position : Nat) :
    signEach E hash oneTime output position l = signEach E hash oneTime' output' position l' := by
  induction h generalizing position with
  | nil => rfl
  | cons hab _ ih => rw [signEach, signEach, hab.1, hab.2, ih]

/-- All that the two ways to sign every input differ in is where the one-time keys come from. -/
theorem signWithViews_eq_of_forall₂ {a : Account} {outputs : List Spendable} {views : List Key}
    (h : List.Forall₂ (fun o view => oneTimeKey view a.privateSpend = a.oneTimeKeyOf E o)
      outputs views) :
    signWithViews E a.privateSpend outputs views = signWithAccount E a outputs := by
  have hzip : List.Forall₂ (fun p o => oneTimeKey p.2 a.privateSpend = a.oneTimeKeyOf E o ∧
      p.1 = id o) (outputs.zip views) outputs := by
    induction h with
    | nil => exact .nil
    | cons hkey _ ih => exact .cons ⟨hkey, rfl⟩ ih
  have hlen : ¬ views.length ≠ outputs.length := not_not.mpr h.length_eq.symm
  rw [signWithViews, if_neg hlen]
  simp only [signEach_congr hzip]
  rfl

end Session

/-- Every output whose mask is a point has a view, and signing with these views and the private
spend key is signing with the account: it succeeds in the same sessions, or fails with the same
error, and leaves the same session behind. -/
theorem Account.exists_views_signWithViews_eq (a : Account)
    (hview : Bytes.toNatLE a.privateView.toBytes < Scalar.order) {outputs : List Spendable}
    (hmasks : ∀ o ∈ outputs, o.mask.isPoint E = true) :
    ∃ views, outputs.mapM (fun o =>
        Ghost.privateKey E o.mask a.privateView Key.zero o.index o.version) = .ok views ∧
      ∀ s : Session, (Session.signWithViews E a.privateSpend outputs views).run s =
        (Session.signWithAccount E a outputs).run s := by
  obtain ⟨v, hv⟩ := Key.exists_scalar hview
  obtain ⟨views, hviews⟩ := exists_forall₂ fun o ho => exists_viewOf hv (hmasks o ho)
  refine ⟨views, mapM_eq_ok_iff.mpr (hviews.imp fun _ _ h => h.1), fun s => ?_⟩
  rw [Session.signWithViews_eq_of_forall₂ (hviews.imp fun _ _ h => h.2)]

/-- The owner of both outputs that a payment spends signs it, and so does whoever has its spend key
and the two views. -/
theorem Account.exists_views_signWithViews_eq_splitting :
    ∃ (a : Account) (outputs : List Spendable) (views : List Key) (s t : Session),
      Bytes.toNatLE a.privateView.toBytes < Scalar.order ∧
      (∀ o ∈ outputs, o.mask.isPoint Curve.ofScalars = true) ∧ outputs.length = 2 ∧
      outputs.mapM (fun o => Ghost.privateKey Curve.ofScalars o.mask a.privateView Key.zero o.index
        o.version) = .ok views ∧
      (Session.signWithAccount Curve.ofScalars a outputs).run s = .ok () t ∧
      (Session.signWithViews Curve.ofScalars a.privateSpend outputs views).run s = .ok () t := by
  have hE := Curve.isLawful_ofScalars
  let base := Curve.ofScalars.base
  let a := Account.ofScalars Curve.ofScalars 5 7
  let p := Payment.splitting (Key.ofPoint Curve.ofScalars base)
    (Payment.ghostKeysOf Curve.ofScalars 5 7 base)
  have hkey := Key.isPoint_ofPoint (hE.decompress_compress base)
  have hview := toNatLE_privateView_lt (.inl ⟨_, _, ofKeys_ofScalar (E := Curve.ofScalars) 5 7⟩)
  have hmasks : ∀ o ∈ p.inputs, o.mask.isPoint Curve.ofScalars = true :=
    List.forall_mem_cons.mpr ⟨hkey, List.forall_mem_singleton.mpr hkey⟩
  obtain ⟨hash, hbuild⟩ := Payment.build_splitting hkey (Key.ofPoint Curve.ofScalars base)
    (Payment.ghostKeysOf Curve.ofScalars 5 7 base) (Entropy.cycle [])
  obtain ⟨_, hfresh, _⟩ := Payment.fresh_of_build hbuild
  obtain ⟨_, _, _, hrun⟩ := hfresh.exists_signed rfl (Payment.owns_splitting hE 5 7 base)
  obtain ⟨views, hviews, heq⟩ := exists_views_signWithViews_eq a hview hmasks
  exact ⟨a, p.inputs, views, _, _, hview, hmasks, rfl, hviews, hrun, (heq _).trans hrun⟩

end KernelWallet
