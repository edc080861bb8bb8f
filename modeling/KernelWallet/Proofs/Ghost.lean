import KernelWallet.Ghost.Keys
import KernelWallet.Proofs.Key

/-! One-time keys as both sides compute them. The sender multiplies the public view by its random
scalar, the receiver the mask by its view scalar, and both get the same point, so that the key that
the receiver finds is the key that the sender made. -/

namespace KernelWallet

variable {E : Curve}

namespace Curve.IsLawful

variable (hE : E.IsLawful)

include hE

theorem sub_eq_iff {p q r : E.Point} : E.sub p q = r ↔ p = E.add q r := by
  constructor
  · rintro rfl
    rw [sub, hE.add_comm p, ← hE.add_assoc, hE.add_comm q, hE.neg_add, hE.zero_add]
  · rintro rfl
    rw [sub, hE.add_comm, hE.isGroup.neg_add_cancel_left]

theorem smul_mulBase_comm (s t : Scalar) : E.smul s (E.mulBase t) = E.smul t (E.mulBase s) := by
  rw [← hE.mul_mulBase, ← hE.mul_mulBase, Fin.mul_comm]

end Curve.IsLawful

theorem Key.ofPoint_inj (hE : E.IsLawful) {p q : E.Point} :
    Key.ofPoint E p = Key.ofPoint E q ↔ p = q := by
  rw [Key.ofPoint, Key.ofPoint, Key.mk.injEq, hE.compress_inj]

theorem Key.point_eq_ok_iff {k : Key} {p : E.Point} :
    k.point E = .ok p ↔ E.decompress k.bytes = some p := by
  rw [Key.point]
  cases E.decompress k.bytes <;> simp

theorem Key.exists_point {k : Key} (h : k.isPoint E = true) : ∃ p, k.point E = .ok p := by
  obtain ⟨p, hp⟩ := Option.isSome_iff_exists.mp h
  exact ⟨p, point_eq_ok_iff.mpr hp⟩

namespace Ghost

variable {index version : UInt8}

theorem publicKey_eq_ok_iff {r publicView publicSpend key : Key} :
    publicKey E r publicView publicSpend index version = .ok key ↔
      ∃ s view spend, r.scalar = .ok s ∧ publicView.point E = .ok view ∧
        publicSpend.point E = .ok spend ∧
        key = .ofPoint E (E.add (E.mulBase (sharedTweak E s view index version)) spend) := by
  simp only [publicKey, bind_eq_ok_iff]
  constructor
  · rintro ⟨s, hs, view, hview, spend, hspend, h⟩
    exact ⟨s, view, spend, hs, hview, hspend, (Except.ok.inj h).symm⟩
  · rintro ⟨s, view, spend, hs, hview, hspend, rfl⟩
    exact ⟨s, hs, view, hview, spend, hspend, rfl⟩

theorem exists_publicKey_eq_ok (r : Scalar) {publicView publicSpend : Key}
    (hview : publicView.isPoint E = true) (hspend : publicSpend.isPoint E = true) :
    ∃ key, publicKey E (Key.ofScalar r) publicView publicSpend index version = .ok key := by
  obtain ⟨view, hview⟩ := Key.exists_point hview
  obtain ⟨spend, hspend⟩ := Key.exists_point hspend
  exact ⟨_, publicKey_eq_ok_iff.mpr ⟨r, view, spend, Key.scalar_ofScalar r, hview, hspend, rfl⟩⟩

theorem privateKey_eq_ok_iff {mask view spend k : Key} :
    privateKey E mask view spend index version = .ok k ↔
      ∃ a r b, view.scalar = .ok a ∧ mask.point E = .ok r ∧ spend.scalar = .ok b ∧
        k = Key.ofScalar (sharedTweak E a r index version + b) := by
  simp only [privateKey, bind_eq_ok_iff]
  constructor
  · rintro ⟨a, ha, r, hr, b, hb, h⟩
    exact ⟨a, r, b, ha, hr, hb, (Except.ok.inj h).symm⟩
  · rintro ⟨a, r, b, ha, hr, hb, rfl⟩
    exact ⟨a, ha, r, hr, b, hb, rfl⟩

theorem privateKey_ofScalar {mask : Key} {r : E.Point} (hmask : mask.point E = .ok r)
    (a b : Scalar) :
    privateKey E mask (Key.ofScalar a) (Key.ofScalar b) index version =
      .ok (Key.ofScalar (sharedTweak E a r index version + b)) :=
  privateKey_eq_ok_iff.mpr ⟨a, r, b, Key.scalar_ofScalar a, hmask, Key.scalar_ofScalar b, rfl⟩

theorem spendKey_ofPoint (hE : E.IsLawful) {mask : Key} {r : E.Point}
    (hmask : mask.point E = .ok r) (a : Scalar) (p : E.Point) :
    spendKey E (Key.ofPoint E p) (Key.ofScalar a) mask index version =
      .ok (Key.ofPoint E (E.sub p (E.mulBase (sharedTweak E a r index version)))) := by
  rw [spendKey, Key.scalar_ofScalar, Key.point_ofPoint (hE.decompress_compress p), hmask]
  rfl

theorem sharedTweak_comm (hE : E.IsLawful) (s t : Scalar) :
    sharedTweak E s (E.mulBase t) index version = sharedTweak E t (E.mulBase s) index version := by
  rw [sharedTweak, sharedTweak, hE.smul_mulBase_comm]

/-- The key that the sender makes is that of the scalar that the receiver spends with. -/
theorem publicKey_ofBaseMultiple (hE : E.IsLawful) (r a b : Scalar) :
    publicKey E (Key.ofScalar r) (Key.ofBaseMultiple E a) (Key.ofBaseMultiple E b) index version =
      .ok (Key.ofBaseMultiple E (sharedTweak E a (E.mulBase r) index version + b)) := by
  have hpoint : ∀ s : Scalar, (Key.ofBaseMultiple E s).point E = .ok (E.mulBase s) := fun s =>
    Key.point_ofPoint (hE.decompress_compress (E.mulBase s))
  refine publicKey_eq_ok_iff.mpr
    ⟨r, E.mulBase a, E.mulBase b, Key.scalar_ofScalar r, hpoint a, hpoint b, ?_⟩
  rw [← sharedTweak_comm hE r a, Key.ofBaseMultiple, hE.add_mulBase]

/-- Of the keys of an output, only that of the receiver shows the public spend key of the
receiver. -/
theorem spendKey_eq_ofBaseMultiple_iff (hE : E.IsLawful) {mask : Key} {r : E.Point}
    (hmask : mask.point E = .ok r) (a b : Scalar) (p : E.Point) :
    spendKey E (Key.ofPoint E p) (Key.ofScalar a) mask index version =
        .ok (Key.ofBaseMultiple E b) ↔
      Key.ofPoint E p = Key.ofBaseMultiple E (sharedTweak E a r index version + b) := by
  rw [spendKey_ofPoint hE hmask, Except.ok.injEq, Key.ofBaseMultiple, Key.ofBaseMultiple,
    Key.ofPoint_inj hE, Key.ofPoint_inj hE, hE.sub_eq_iff, hE.add_mulBase]

/-- Sender and receiver agree on every output: with the mask and its view scalar the receiver takes
the tweak off the key that the sender made and finds its own public spend key, and with its spend
scalar as well it has the canonical scalar of that key. -/
theorem exists_publicKey_spendKey_privateKey (hE : E.IsLawful) {a b r : Key}
    (ha : Bytes.toNatLE a.toBytes < Scalar.order) (hb : Bytes.toNatLE b.toBytes < Scalar.order)
    (hr : Bytes.toNatLE r.toBytes < Scalar.order) (index version : UInt8) :
    ∃ A B R P p, a.publicKey E = .ok A ∧ b.publicKey E = .ok B ∧ r.publicKey E = .ok R ∧
      publicKey E r A B index version = .ok P ∧ spendKey E P a R index version = .ok B ∧
      privateKey E R a b index version = .ok p ∧ Bytes.toNatLE p.toBytes < Scalar.order ∧
      p.publicKey E = .ok P := by
  obtain ⟨a, rfl⟩ := Key.exists_ofScalar ha
  obtain ⟨b, rfl⟩ := Key.exists_ofScalar hb
  obtain ⟨r, rfl⟩ := Key.exists_ofScalar hr
  let own : Scalar := sharedTweak E a (E.mulBase r) index version + b
  have hmask : (Key.ofBaseMultiple E r).point E = .ok (E.mulBase r) :=
    Key.point_ofPoint (hE.decompress_compress (E.mulBase r))
  refine ⟨Key.ofBaseMultiple E a, Key.ofBaseMultiple E b, Key.ofBaseMultiple E r,
    Key.ofBaseMultiple E own, Key.ofScalar own, Key.publicKey_ofScalar a, Key.publicKey_ofScalar b,
    Key.publicKey_ofScalar r, publicKey_ofBaseMultiple hE r a b, ?_, privateKey_ofScalar hmask a b,
    ?_, Key.publicKey_ofScalar own⟩
  · exact (spendKey_eq_ofBaseMultiple_iff hE hmask a b (E.mulBase own)).mpr rfl
  · rw [Key.toNatLE_ofScalar]
    exact own.isLt

/-- The greatest scalar as the view key, and an index that takes two bytes. -/
theorem exists_publicKey_spendKey_privateKey_greatest :
    Curve.ofScalars.IsLawful ∧ Bytes.toNatLE (Key.ofScalar (-1)).toBytes < Scalar.order ∧
      Bytes.toNatLE (Key.ofScalar 5).toBytes < Scalar.order ∧
      Bytes.toNatLE (Key.ofScalar 7).toBytes < Scalar.order ∧
      ∃ A B R P p, (Key.ofScalar (-1)).publicKey Curve.ofScalars = .ok A ∧
        (Key.ofScalar 5).publicKey Curve.ofScalars = .ok B ∧
        (Key.ofScalar 7).publicKey Curve.ofScalars = .ok R ∧
        publicKey Curve.ofScalars (Key.ofScalar 7) A B 200 5 = .ok P ∧
        spendKey Curve.ofScalars P (Key.ofScalar (-1)) R 200 5 = .ok B ∧
        privateKey Curve.ofScalars R (Key.ofScalar (-1)) (Key.ofScalar 5) 200 5 = .ok p ∧
        Bytes.toNatLE p.toBytes < Scalar.order ∧ p.publicKey Curve.ofScalars = .ok P := by
  have hcanonical : ∀ s : Scalar, Bytes.toNatLE (Key.ofScalar s).toBytes < Scalar.order :=
    fun s => (Key.toNatLE_ofScalar s).trans_lt s.isLt
  have hE := Curve.isLawful_ofScalars
  exact ⟨hE, hcanonical _, hcanonical _, hcanonical _,
    exists_publicKey_spendKey_privateKey hE (hcanonical _) (hcanonical _) (hcanonical _) 200 5⟩

end Ghost

namespace GhostKeys

variable {index version : UInt8}

theorem create_eq_ok_iff {e e' : Entropy} {receivers : List (Key × Key)} {g : GhostKeys} :
    create E e receivers index version = .ok (g, e') ↔
      (Key.random e).1.publicKey E = .ok g.mask ∧
        List.Forall₂ (fun r key =>
          Ghost.publicKey E (Key.random e).1 r.1 r.2 index version = .ok key) receivers g.keys ∧
        e' = (Key.random e).2 := by
  simp only [create, bind_eq_ok_iff, ← mapM_eq_ok_iff]
  constructor
  · rintro ⟨mask, hmask, keys, hkeys, h⟩
    obtain ⟨rfl, rfl⟩ := Prod.mk.inj (Except.ok.inj h)
    exact ⟨hmask, hkeys, rfl⟩
  · rintro ⟨hmask, hkeys, rfl⟩
    exact ⟨g.mask, hmask, g.keys, hkeys, rfl⟩

theorem exists_random (e : Entropy) : ∃ r : Scalar, (Key.random e).1 = Key.ofScalar r :=
  ⟨_, rfl⟩

theorem exists_ofPoint_of_create {e e' : Entropy} {receivers : List (Key × Key)} {g : GhostKeys}
    (h : create E e receivers index version = .ok (g, e')) :
    ∀ key ∈ g.keys, ∃ p, key = Key.ofPoint E p := by
  intro key hkey
  obtain ⟨_, hkeys, _⟩ := create_eq_ok_iff.mp h
  obtain ⟨r, _, hmade⟩ := exists_of_forall₂ hkeys.flip hkey
  obtain ⟨_, _, _, _, _, _, rfl⟩ := Ghost.publicKey_eq_ok_iff.mp hmade
  exact ⟨_, rfl⟩

/-- Keys can be made for all receivers whose keys are points. -/
theorem exists_create (hE : ∀ p, (E.decompress (E.compress p)).isSome = true)
    {receivers : List (Key × Key)}
    (hreceivers : ∀ r ∈ receivers, r.1.isPoint E = true ∧ r.2.isPoint E = true) (e : Entropy)
    (index version : UInt8) :
    ∃ g e', create E e receivers index version = .ok (g, e') ∧
      g.keys.length = receivers.length ∧ ∀ k ∈ g.mask :: g.keys, k.isPoint E = true := by
  obtain ⟨r, hr⟩ := exists_random e
  obtain ⟨keys, hkeys⟩ : ∃ keys, receivers.mapM (fun r =>
      Ghost.publicKey E (Key.random e).1 r.1 r.2 index version) = .ok keys := by
    refine exists_mapM_of_forall fun receiver hmem => ?_
    obtain ⟨hview, hspend⟩ := hreceivers receiver hmem
    rw [hr]
    exact Ghost.exists_publicKey_eq_ok r hview hspend
  have hmask : (Key.random e).1.publicKey E = .ok (Key.ofBaseMultiple E r) := by
    rw [hr, Key.publicKey_ofScalar]
  have hcreate : create E e receivers index version =
      .ok (⟨Key.ofBaseMultiple E r, keys⟩, (Key.random e).2) :=
    create_eq_ok_iff.mpr ⟨hmask, mapM_eq_ok_iff.mp hkeys, rfl⟩
  refine ⟨_, _, hcreate, (mapM_eq_ok_iff.mp hkeys).length_eq.symm, ?_⟩
  rw [List.forall_mem_cons]
  refine ⟨hE _, fun key hkey => ?_⟩
  obtain ⟨p, rfl⟩ := exists_ofPoint_of_create hcreate key hkey
  exact hE p

/-- The search ends at the first key that shows the public spend key, if the keys before it can be
read. -/
theorem findFrom_eq_some {mask privateView publicSpend : Key} {keys : List Key} (slot : Nat)
    {k : Nat} {key : Key} (hkey : keys[k]? = some key)
    (hfound : Ghost.spendKey E key privateView mask index version = .ok publicSpend)
    (hbefore : ∀ n < k, ∀ key, keys[n]? = some key → ∃ other,
      Ghost.spendKey E key privateView mask index version = .ok other ∧ other ≠ publicSpend) :
    findFrom E slot mask privateView publicSpend index version keys = .ok (some (slot + k)) := by
  induction keys generalizing slot k with
  | nil => simp at hkey
  | cons first keys ih =>
    cases k with
    | zero =>
      obtain rfl : first = key := by simpa using hkey
      rw [findFrom, hfound]
      simp [bind, Except.bind, pure, Except.pure]
    | succ k =>
      obtain ⟨other, hother, hne⟩ := hbefore 0 (Nat.succ_pos k) first rfl
      have hrest := ih (slot + 1) (by simpa using hkey)
        fun n hn key hget => hbefore (n + 1) (Nat.succ_lt_succ hn) key (by simpa using hget)
      rw [findFrom, hother, Nat.add_comm k, ← Nat.add_assoc]
      simpa [bind, Except.bind, hne] using hrest

/-- A receiver finds the first slot that holds the key of the scalar that it can spend with. -/
theorem exists_findOwned (hE : E.IsLawful) {g : GhostKeys} {r : E.Point}
    (hmask : g.mask.point E = .ok r) (hpoints : ∀ key ∈ g.keys, ∃ p, key = Key.ofPoint E p)
    {a b : Scalar} {own : Key}
    (hown : own = Key.ofBaseMultiple E (Ghost.sharedTweak E a r index version + b))
    (hmem : own ∈ g.keys) :
    ∃ k, g.findOwned E (Key.ofScalar a) (Key.ofBaseMultiple E b) index version = .ok (some k) ∧
      g.keys[k]? = some own ∧ ∀ n < k, g.keys[n]? ≠ some own := by
  obtain ⟨k, hk⟩ : ∃ k, g.keys.findIdx? (· == own) = some k := by
    refine Option.isSome_iff_exists.mp ?_
    simpa using hmem
  obtain ⟨hlt, hkey, hfirst⟩ := List.findIdx?_eq_some_iff_getElem.mp hk
  simp only [beq_iff_eq] at hkey hfirst
  have hget : g.keys[k]? = some own := List.getElem?_eq_some_iff.mpr ⟨hlt, hkey⟩
  -- A key shows the receiver's spend key exactly if it is `own`, so the search cannot stop earlier.
  have hshows : ∀ key ∈ g.keys, ∃ other,
      Ghost.spendKey E key (Key.ofScalar a) g.mask index version = .ok other ∧
        (other = Key.ofBaseMultiple E b ↔ key = own) := by
    intro key hkey
    obtain ⟨p, rfl⟩ := hpoints key hkey
    refine ⟨_, Ghost.spendKey_ofPoint hE hmask a p, ?_⟩
    rw [hown, ← Ghost.spendKey_eq_ofBaseMultiple_iff hE hmask, Ghost.spendKey_ofPoint hE hmask,
      Except.ok.injEq]
  refine ⟨k, ?_, hget, fun n hn hsome => ?_⟩
  · obtain ⟨other, hother, hiff⟩ := hshows own hmem
    rw [hiff.mpr rfl] at hother
    have hfind := findFrom_eq_some 0 hget hother fun n hn key hkey => by
      obtain ⟨hlt, rfl⟩ := List.getElem?_eq_some_iff.mp hkey
      obtain ⟨other, hother, hiff⟩ := hshows g.keys[n] (List.getElem_mem hlt)
      exact ⟨other, hother, fun heq => hfirst n hn (hiff.mp heq)⟩
    rwa [Nat.zero_add] at hfind
  · obtain ⟨hlt, heq⟩ := List.getElem?_eq_some_iff.mp hsome
    exact hfirst n hn heq

/-- The receiver in a slot can spend with the scalar of the key in that slot, and finds the first
slot with this key. -/
theorem received_of_create (hE : E.IsLawful) {e e' : Entropy} {receivers : List (Key × Key)}
    {g : GhostKeys} (h : create E e receivers index version = .ok (g, e')) {j : Nat} {a b : Scalar}
    (hj : receivers[j]? = some (Key.ofBaseMultiple E a, Key.ofBaseMultiple E b)) :
    ∃ own : Scalar, g.keys[j]? = some (Key.ofBaseMultiple E own) ∧
      Ghost.privateKey E g.mask (Key.ofScalar a) (Key.ofScalar b) index version =
        .ok (Key.ofScalar own) ∧
      ∃ k, g.findOwned E (Key.ofScalar a) (Key.ofBaseMultiple E b) index version = .ok (some k) ∧
        g.keys[k]? = some (Key.ofBaseMultiple E own) ∧
        ∀ n < k, g.keys[n]? ≠ some (Key.ofBaseMultiple E own) := by
  obtain ⟨hrandom, hkeys, _⟩ := create_eq_ok_iff.mp h
  obtain ⟨r, hr⟩ := exists_random e
  rw [hr, Key.publicKey_ofScalar] at hrandom
  have hmask : g.mask.point E = .ok (E.mulBase r) := by
    rw [← Except.ok.inj hrandom]
    exact Key.point_ofPoint (hE.decompress_compress (E.mulBase r))
  obtain ⟨key, hkey, hmade⟩ := exists_getElem?_of_forall₂ hkeys hj
  simp only [hr, Ghost.publicKey_ofBaseMultiple hE] at hmade
  obtain rfl := Except.ok.inj hmade
  exact ⟨_, hkey, Ghost.privateKey_ofScalar hmask a b,
    exists_findOwned hE hmask (exists_ofPoint_of_create h) rfl (List.mem_of_getElem? hkey)⟩

end GhostKeys

end KernelWallet
