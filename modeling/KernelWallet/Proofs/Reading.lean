import KernelWallet.Proofs.Bytes

/-! What it means that a reader reads back what was written, however the bytes go on, and how such
readers are put together. -/

namespace KernelWallet

/-- What is read back is written differently from all else. -/
theorem write_inj {α β γ : Type} {write : α → β} {read : β → γ} {ok : α → γ}
    (hok : Function.Injective ok) (h : ∀ a, read (write a) = ok a) {a b : α} :
    write a = write b ↔ a = b := by
  constructor
  · intro heq
    apply hok
    rw [← h, heq, h]
  · exact congrArg write

section

variable {m : Type → Type} [Monad m] {α β : Type}

/-- The reader takes `b` off the front of any bytes that start with it, and gives `a`. -/
def Reads (read : StateT Bytes m α) (b : Bytes) (a : α) : Prop :=
  ∀ rest, read.run (b ++ rest) = pure (a, rest)

theorem Reads.pure (a : α) : Reads (Pure.pure a : StateT Bytes m α) [] a :=
  fun _ => rfl

variable [LawfulMonad m]

theorem Reads.bind {read : StateT Bytes m α} {next : α → StateT Bytes m β} {b c : Bytes}
    {a : α} {r : β} (h : Reads read b a) (h' : Reads (next a) c r) :
    Reads (read >>= next) (b ++ c) r := by
  intro rest
  rw [List.append_assoc, StateT.run_bind, h (c ++ rest), pure_bind]
  exact h' rest

theorem Reads.bind_pure {read : StateT Bytes m α} {b : Bytes} {a : α} (f : α → β)
    (h : Reads read b a) : Reads (read >>= fun a => Pure.pure (f a)) b (f a) := by
  intro rest
  rw [StateT.run_bind, h rest, pure_bind]
  rfl

theorem Reads.bind_nil {read : StateT Bytes m α} {next : α → StateT Bytes m β} {c : Bytes}
    {a : α} {r : β} (h : Reads read [] a) (h' : Reads (next a) c r) :
    Reads (read >>= next) c r :=
  h.bind h'

theorem reads_natBE {take : Nat → StateT Bytes m Bytes} (htake : ∀ b, Reads (take b.length) b b)
    {width n : Nat} (h : n < 256 ^ width) :
    Reads (take width >>= fun b => Pure.pure (Bytes.toNatBE b)) (Bytes.ofNatBE width n) n := by
  have hbytes := htake (Bytes.ofNatBE width n)
  rw [Bytes.length_ofNatBE] at hbytes
  have hread := hbytes.bind_pure Bytes.toNatBE
  rwa [Bytes.toNatBE_ofNatBE h] at hread

theorem reads_readFrom {read : StateT Bytes m α} {bs : List Bytes} {as : List α}
    (h : List.Forall₂ (Reads read) bs as) (done : List α) :
    Reads (readFrom read as.length done) bs.flatten (done.reverse ++ as) := by
  induction h generalizing done with
  | nil =>
    rw [List.append_nil]
    exact Reads.pure done.reverse
  | @cons _ a _ _ hread _ ih =>
    have htail := ih (a :: done)
    rw [List.reverse_cons, List.append_assoc, List.singleton_append] at htail
    exact hread.bind htail

end

/-- What a reader takes off the front of some bytes is determined by them. -/
theorem Reads.unique {ε α : Type} {read : StateT Bytes (Except ε) α} {b b' c c' : Bytes} {a a' : α}
    (h : Reads read b a) (h' : Reads read b' a') (heq : b ++ c = b' ++ c') : a = a' ∧ c = c' := by
  have hrun := h c
  rw [heq, h' c'] at hrun
  obtain ⟨rfl, rfl⟩ := Prod.mk.inj (Except.ok.inj hrun)
  exact ⟨rfl, rfl⟩

/-- The reader throws on any bytes that start with `b`. -/
def Throws {ε α : Type} (read : StateT Bytes (Except ε) α) (b : Bytes) (e : ε) : Prop :=
  ∀ rest, read.run (b ++ rest) = .error e

section

variable {ε α β : Type} {read : StateT Bytes (Except ε) α} {next : α → StateT Bytes (Except ε) β}
  {b c : Bytes} {e : ε}

theorem Throws.bind (h : Throws read b e) : Throws (read >>= next) b e := by
  intro rest
  rw [StateT.run_bind, h rest]
  rfl

theorem Throws.append (h : Throws read b e) (c : Bytes) : Throws read (b ++ c) e := by
  intro rest
  rw [List.append_assoc]
  exact h (c ++ rest)

theorem Reads.bind_throws {a : α} (h : Reads read b a) (h' : Throws (next a) c e) :
    Throws (read >>= next) (b ++ c) e := by
  intro rest
  rw [List.append_assoc, StateT.run_bind, h (c ++ rest), pure_bind]
  exact h' rest

end

/-! ## Success of a sequence -/

theorem bind_eq_ok_iff {ε α β : Type} {x : Except ε α} {next : α → Except ε β} {b : β} :
    x >>= next = .ok b ↔ ∃ a, x = .ok a ∧ next a = .ok b := by
  cases x with
  | error e => simp [bind, Except.bind]
  | ok a => simp [bind, Except.bind]

theorem check_bind_eq_ok_iff {ε β : Type} {check : Except ε Unit} {next : Unit → Except ε β}
    {b : β} : check >>= next = .ok b ↔ check = .ok () ∧ next () = .ok b := by
  rw [bind_eq_ok_iff]
  exact ⟨fun ⟨(), h⟩ => h, fun h => ⟨(), h⟩⟩

theorem guard_bind_eq_ok_iff {ε β : Type} {c : Prop} [Decidable c] {e : ε}
    {next : PUnit → Except ε β} {b : β} :
    (if c then throw e >>= next else next ()) = .ok b ↔ ¬ c ∧ next () = .ok b := by
  by_cases hc : c
  · rw [if_pos hc]
    exact ⟨nofun, fun h => absurd hc h.1⟩
  · rw [if_neg hc, and_iff_right hc]

theorem guard_eq_ok_iff {ε : Type} {c : Prop} [Decidable c] {e : ε} :
    (if c then throw e else pure () : Except ε Unit) = .ok () ↔ ¬ c := by
  by_cases hc : c
  · rw [if_pos hc]
    exact ⟨nofun, fun h => absurd hc h⟩
  · rw [if_neg hc]
    exact ⟨fun _ => hc, fun _ => rfl⟩

theorem mapError_eq_ok_iff {ε ε' α : Type} {f : ε → ε'} {x : Except ε α} {a : α} :
    x.mapError f = .ok a ↔ x = .ok a := by
  cases x <;> simp [Except.mapError]

theorem mapError_bind_mapError {ε ε' α β : Type} {f : ε → ε'} {x : Except ε α}
    {next : α → Except ε β} :
    (x.mapError f >>= fun a => (next a).mapError f) = (x >>= next).mapError f := by
  cases x <;> rfl

theorem mapM_eq_ok_iff {ε α β : Type} {f : α → Except ε β} {l : List α} {bs : List β} :
    l.mapM f = .ok bs ↔ List.Forall₂ (fun a b => f a = .ok b) l bs := by
  induction l generalizing bs with
  | nil =>
    rw [List.mapM_nil, List.forall₂_nil_left_iff]
    exact ⟨fun h => (Except.ok.inj h).symm, fun h => by rw [h]; rfl⟩
  | cons a l ih =>
    simp only [List.mapM_cons, bind_eq_ok_iff, ih, List.forall₂_cons_left_iff]
    constructor
    · rintro ⟨b, hb, rest, hrest, h⟩
      exact ⟨b, rest, hb, hrest, (Except.ok.inj h).symm⟩
    · rintro ⟨b, rest, hb, hrest, rfl⟩
      exact ⟨b, hb, rest, hrest, rfl⟩

theorem bind_ne_error {ε α β : Type} {e : ε} {x : Except ε α} {next : α → Except ε β}
    (hx : x ≠ .error e) (hnext : ∀ a, next a ≠ .error e) : x >>= next ≠ .error e := by
  cases x with
  | error e' => exact fun h => hx (congrArg _ (Except.error.inj h))
  | ok a => exact hnext a

theorem pure_ne_error {ε α : Type} (a : α) (e : ε) : (pure a : Except ε α) ≠ .error e := by
  rintro ⟨⟩

theorem mapM_ne_error {ε α β : Type} {e : ε} {f : α → Except ε β} (h : ∀ a, f a ≠ .error e)
    (l : List α) : l.mapM f ≠ .error e := by
  induction l with
  | nil => exact pure_ne_error [] e
  | cons a l ih =>
    rw [List.mapM_cons]
    exact bind_ne_error (h a) fun b => bind_ne_error ih fun bs => pure_ne_error (b :: bs) e

theorem exists_of_forall₂ {α β : Type} {R : α → β → Prop} {l : List α} {l' : List β}
    (h : List.Forall₂ R l l') {a : α} (ha : a ∈ l) : ∃ b ∈ l', R a b := by
  induction h with
  | nil => exact absurd ha (by simp)
  | cons hab _ ih =>
    rcases List.mem_cons.mp ha with rfl | hmem
    · exact ⟨_, by simp, hab⟩
    · obtain ⟨b, hb, hrel⟩ := ih hmem
      exact ⟨b, List.mem_cons_of_mem _ hb, hrel⟩

theorem forall_mem_of_forall₂ {α β : Type} {R : α → β → Prop} {P : β → Prop} {l : List α}
    {l' : List β} (h : List.Forall₂ R l l') (hR : ∀ a ∈ l, ∀ b, R a b → P b) : ∀ b ∈ l', P b := by
  intro b hb
  obtain ⟨a, ha, hab⟩ := exists_of_forall₂ h.flip hb
  exact hR a ha b hab

theorem exists_getElem?_of_forall₂ {α β : Type} {R : α → β → Prop} {l : List α} {l' : List β}
    (h : List.Forall₂ R l l') {n : Nat} {a : α} (ha : l[n]? = some a) :
    ∃ b, l'[n]? = some b ∧ R a b := by
  obtain ⟨hlt, rfl⟩ := List.getElem?_eq_some_iff.mp ha
  have hlt' : n < l'.length := h.length_eq ▸ hlt
  exact ⟨l'[n], List.getElem?_eq_getElem hlt', h.get hlt hlt'⟩

theorem exists_forall₂ {α β : Type} {R : α → β → Prop} {l : List α} (h : ∀ a ∈ l, ∃ b, R a b) :
    ∃ l', List.Forall₂ R l l' := by
  induction l with
  | nil => exact ⟨[], .nil⟩
  | cons a l ih =>
    obtain ⟨⟨b, hb⟩, hrest⟩ := List.forall_mem_cons.mp h
    obtain ⟨bs, hbs⟩ := ih hrest
    exact ⟨b :: bs, .cons hb hbs⟩

theorem exists_mapM_of_forall {ε α β : Type} {f : α → Except ε β} {l : List α}
    (h : ∀ a ∈ l, ∃ b, f a = .ok b) : ∃ bs, l.mapM f = .ok bs := by
  simp only [mapM_eq_ok_iff]
  exact exists_forall₂ h

section

variable {ε α β : Type} {f : α → Except ε β} {P : β → Prop}

theorem forall_mem_of_mapM {l : List α} {bs : List β} (h : ∀ a ∈ l, ∀ b, f a = .ok b → P b)
    (hbs : l.mapM f = .ok bs) : ∀ b ∈ bs, P b :=
  forall_mem_of_forall₂ (mapM_eq_ok_iff.mp hbs) h

theorem forall_mem_of_option_mapM {o : Option α} {o' : Option β}
    (h : ∀ a ∈ o, ∀ b, f a = .ok b → P b) (ho' : o.mapM f = .ok o') : ∀ b ∈ o', P b := by
  cases o with
  | none =>
    obtain rfl := Except.ok.inj ho'
    exact nofun
  | some a =>
    obtain ⟨b, hb, heq⟩ := bind_eq_ok_iff.mp ho'
    obtain rfl := Except.ok.inj heq
    intro b' hb'
    obtain rfl := Option.some.inj hb'
    exact h a rfl b hb

end

theorem run_bind_eq_ok_iff {ε σ α β : Type} {x : StateT σ (Except ε) α}
    {next : α → StateT σ (Except ε) β} {s t : σ} {b : β} :
    (x >>= next).run s = .ok (b, t) ↔
      ∃ a u, x.run s = .ok (a, u) ∧ (next a).run u = .ok (b, t) := by
  rw [StateT.run_bind, bind_eq_ok_iff]
  simp only [Prod.exists]

theorem run_bind_pure_eq_ok_iff {ε σ α β : Type} {x : StateT σ (Except ε) α} {f : α → β} {s t : σ}
    {b : β} :
    (x >>= fun a => pure (f a)).run s = .ok (b, t) ↔ ∃ a, x.run s = .ok (a, t) ∧ f a = b := by
  rw [run_bind_eq_ok_iff]
  constructor
  · rintro ⟨a, u, ha, h⟩
    obtain ⟨rfl, rfl⟩ := Prod.mk.inj (Except.ok.inj h)
    exact ⟨a, ha, rfl⟩
  · rintro ⟨a, ha, rfl⟩
    exact ⟨a, t, ha, rfl⟩

theorem run_throw_ne_ok {ε σ α : Type} (e : ε) (s : σ) (r : α × σ) :
    (throw e : StateT σ (Except ε) α).run s ≠ .ok r :=
  fun h => nomatch h

end KernelWallet
