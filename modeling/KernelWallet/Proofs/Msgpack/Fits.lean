import KernelWallet.Proofs.Msgpack

/-! Lengths in the msgpack form take at most four bytes, so whatever is read has room in them. -/

namespace KernelWallet.Msgpack

/-- Every length in the value is one that can be written. -/
inductive Value.Fits : Value → Prop where
  | nil : Fits .nil
  | bool (b : Bool) : Fits (.bool b)
  | nat (n : Nat) : Fits (.nat n)
  | int (n : Int) : Fits (.int n)
  | float : Fits .float
  | str {b : Bytes} (h : b.length < 2 ^ 32) : Fits (.str b)
  | bin {b : Bytes} (h : b.length < 2 ^ 32) : Fits (.bin b)
  | array {items : List Value} (hlen : items.length < 2 ^ 32) (h : ∀ v ∈ items, Fits v) :
      Fits (.array items)
  | map {entries : List (Value × Value)} (h : ∀ e ∈ entries, Fits e.2) : Fits (.map entries)
  | ext : Fits .ext

/-! ## Readers -/

/-- Whatever the reader gives has the property. -/
def Yields {α : Type} (read : Reader α) (P : α → Prop) : Prop :=
  ∀ b a rest, read.run b = some (a, rest) → P a

section

variable {α β : Type} {read : Reader α} {next : α → Reader β} {P : α → Prop} {Q : β → Prop}

theorem Yields.pure {a : α} (h : P a) : Yields (Pure.pure a) P := by
  intro b c rest hrun
  obtain ⟨rfl, _⟩ := Prod.mk.inj (Option.some.inj hrun)
  exact h

theorem Yields.bind (h : Yields read P) (h' : ∀ a, P a → Yields (next a) Q) :
    Yields (read >>= next) Q := by
  intro b c rest hrun
  rw [StateT.run_bind] at hrun
  obtain ⟨⟨a, middle⟩, ha, hc⟩ := Option.bind_eq_some_iff.mp hrun
  exact h' a (h b a middle ha) middle c rest hc

theorem Yields.bind_pure (f : α → β) (h : ∀ a, Q (f a)) :
    Yields (read >>= fun a => Pure.pure (f a)) Q := by
  have htrue : Yields read fun _ => True := fun _ _ _ _ => trivial
  exact htrue.bind fun a _ => .pure (h a)

theorem yields_failure : Yields (failure : Reader α) P :=
  nofun

theorem yields_take (n : Nat) : Yields (take n) fun b => b.length = n := by
  intro b front rest hrun
  simp only [take, StateT.run, List.splitAt_eq] at hrun
  split at hrun
  · next hlen =>
    obtain ⟨rfl, _⟩ := Prod.mk.inj (Option.some.inj hrun)
    exact hlen
  · cases hrun

theorem yields_readNat (width : Nat) : Yields (readNat width) fun n => n < 256 ^ width := by
  refine (yields_take width).bind fun b hb => .pure ?_
  rw [← hb]
  exact Bytes.toNatBE_lt b

theorem yields_readFrom (h : Yields read P) (n : Nat) {done : List α} (hdone : ∀ a ∈ done, P a) :
    Yields (readFrom read n done) fun l => l.length = done.length + n ∧ ∀ a ∈ l, P a := by
  induction n generalizing done with
  | zero => exact .pure ⟨List.length_reverse, fun a ha => hdone a (List.mem_reverse.mp ha)⟩
  | succ n ih =>
    refine h.bind fun a ha => ?_
    have hall : ∀ x ∈ a :: done, P x := List.forall_mem_cons.mpr ⟨ha, hdone⟩
    have hread := ih hall
    rwa [List.length_cons, Nat.add_assoc, Nat.add_comm 1 n] at hread

end

section

variable {nested : Option (Reader Value)}

theorem yields_str {n : Nat} (h : n < 2 ^ 32) :
    Yields (do return Value.str (← take n)) Value.Fits :=
  (yields_take n).bind fun _ hb => .pure (.str (hb ▸ h))

theorem yields_bin {n : Nat} (h : n < 2 ^ 32) :
    Yields (do return Value.bin (← take n)) Value.Fits :=
  (yields_take n).bind fun _ hb => .pure (.bin (hb ▸ h))

theorem yields_readItems (h : ∀ read ∈ nested, Yields read Value.Fits) {n : Nat}
    (hn : n < 2 ^ 32) : Yields (readItems nested n) Value.Fits := by
  cases nested with
  | none => exact yields_failure
  | some read =>
    refine (yields_readFrom (h read rfl) n (by simp)).bind fun items hitems => .pure ?_
    exact .array (by simpa [hitems.1] using hn) hitems.2

theorem yields_readEntries (h : ∀ read ∈ nested, Yields read Value.Fits) (n : Nat) :
    Yields (readEntries nested n) Value.Fits := by
  cases nested with
  | none => exact yields_failure
  | some read =>
    have hread := h read rfl
    have hentry : Yields (do return (← read, ← read)) fun e : Value × Value => e.2.Fits :=
      hread.bind fun _ _ => hread.bind fun _ hv => .pure hv
    exact (yields_readFrom hentry n (by simp)).bind fun _ hentries => .pure (.map hentries.2)

theorem yields_readExt (n : Nat) : Yields (readExt nested n) Value.Fits := by
  cases nested with
  | none => exact yields_failure
  | some read => exact .bind_pure _ fun _ => .ext

/-- Where a number of at most four bytes stands for a length. -/
theorem Yields.sized {width : Nat} {next : Nat → Reader Value} (hwidth : width ≤ 4)
    (h : ∀ n < 2 ^ 32, Yields (next n) Value.Fits) :
    Yields (readNat width >>= next) Value.Fits := by
  refine (yields_readNat width).bind fun n hn => h n (hn.trans_le ?_)
  exact Nat.pow_le_pow_right (by decide : 0 < 256) hwidth

/-- A value that is read fits if the values inside it do. -/
theorem yields_readTagged (h : ∀ read ∈ nested, Yields read Value.Fits) (tag : Nat) :
    Yields (readTagged nested tag) Value.Fits := by
  unfold readTagged
  split
  · exact .pure (.nat tag)
  split
  · exact yields_readEntries h _
  split
  · exact yields_readItems h (by omega)
  split
  · exact yields_str (by omega)
  split
  · exact .pure (.int _)
  split
  · exact .pure .nil
  · exact .pure (.bool false)
  · exact .pure (.bool true)
  · exact .sized (by decide) fun _ => yields_bin
  · exact .sized (by decide) fun _ => yields_bin
  · exact .sized (by decide) fun _ => yields_bin
  · exact .sized (by decide) fun n _ => yields_readExt n
  · exact .sized (by decide) fun n _ => yields_readExt n
  · exact .sized (by decide) fun n _ => yields_readExt n
  · exact .bind_pure _ fun _ => .float
  · exact .bind_pure _ fun _ => .float
  · exact .bind_pure _ .nat
  · exact .bind_pure _ .nat
  · exact .bind_pure _ .nat
  · exact .bind_pure _ .nat
  · exact .bind_pure _ .int
  · exact .bind_pure _ .int
  · exact .bind_pure _ .int
  · exact .bind_pure _ .int
  · exact yields_readExt 1
  · exact yields_readExt 2
  · exact yields_readExt 4
  · exact yields_readExt 8
  · exact yields_readExt 16
  · exact .sized (by decide) fun _ => yields_str
  · exact .sized (by decide) fun _ => yields_str
  · exact .sized (by decide) fun _ => yields_str
  · exact .sized (by decide) fun _ => yields_readItems h
  · exact .sized (by decide) fun _ => yields_readItems h
  · exact .sized (by decide) fun n _ => yields_readEntries h n
  · exact .sized (by decide) fun n _ => yields_readEntries h n
  · exact yields_failure

theorem yields_readHead (h : ∀ read ∈ nested, Yields read Value.Fits) :
    Yields (readHead nested) Value.Fits :=
  (yields_readNat 1).bind fun tag _ => yields_readTagged h tag

theorem yields_readNested (depth : Nat) : Yields (readNested depth) Value.Fits := by
  induction depth with
  | zero => exact yields_readHead nofun
  | succ depth ih =>
    refine yields_readHead fun read hread => ?_
    obtain rfl := Option.some.inj hread
    exact ih

end

/-! ## Views -/

/-- Whatever the view gives of a value that fits has the property. -/
def Views {α : Type} (view : Value → Option α) (P : α → Prop) : Prop :=
  ∀ v a, v.Fits → view v = some a → P a

theorem forall₂_of_mapM {α β : Type} {f : α → Option β} {l : List α} {bs : List β}
    (h : l.mapM f = some bs) : List.Forall₂ (fun a b => f a = some b) l bs := by
  induction l generalizing bs with
  | nil =>
    obtain rfl := Option.some.inj h
    exact .nil
  | cons a l ih =>
    simp only [List.mapM_cons, Option.bind_eq_bind, Option.bind_eq_some_iff] at h
    obtain ⟨b, hb, rest, hrest, h⟩ := h
    obtain rfl := Option.some.inj h
    exact .cons hb (ih hrest)

theorem views_bytes : Views Value.bytes? fun b => b.length < 2 ^ 32 := by
  intro v b hv hb
  cases hv with
  | str hlen | bin hlen =>
    obtain rfl := Option.some.inj hb
    exact hlen
  | array hlen _ =>
    rw [Value.bytes?] at hb
    rwa [← (forall₂_of_mapM hb).length_eq]
  | _ => exact nomatch hb

theorem views_text : Views Value.text? fun s => (Bytes.ofText s).length < 2 ^ 32 := by
  intro v s hv hs
  cases hv with
  | str hlen | bin hlen =>
    rw [Value.text?] at hs
    rwa [Bytes.ofText_of_toText? hs]
  | _ => exact nomatch hs

theorem views_list : Views Value.list? fun vs => vs.length < 2 ^ 32 ∧ ∀ v ∈ vs, v.Fits := by
  intro v vs hv hvs
  cases hv with
  | array hlen hitems =>
    obtain rfl := Option.some.inj hvs
    exact ⟨hlen, hitems⟩
  | bin hlen =>
    obtain rfl := Option.some.inj hvs
    refine ⟨by rwa [List.length_map], fun v hv => ?_⟩
    obtain ⟨byte, _, rfl⟩ := List.mem_map.mp hv
    exact .nat byte.toNat
  | _ => exact nomatch hvs

section

variable {α : Type} {view : Value → Option α} {P : α → Prop}

theorem Views.list (h : Views view P) :
    Views (fun v => do (← v.list?).mapM view) fun l => l.length < 2 ^ 32 ∧ ∀ a ∈ l, P a := by
  intro v l hv hl
  obtain ⟨vs, hvs, hmap⟩ := Option.bind_eq_some_iff.mp hl
  obtain ⟨hlen, hitems⟩ := views_list v vs hv hvs
  have hviews := forall₂_of_mapM hmap
  refine ⟨by rwa [← hviews.length_eq], fun a ha => ?_⟩
  obtain ⟨item, hitem, heq⟩ := exists_of_forall₂ hviews.flip ha
  exact h item a (hitems item hitem) heq

theorem Views.option (h : Views view P) : Views (Value.option? view) fun o => ∀ a ∈ o, P a := by
  intro v o hv ho a ha
  obtain rfl := Option.mem_def.mp ha
  cases v with
  | nil => exact nomatch ho
  | _ =>
    obtain ⟨a', ha', heq⟩ := Option.map_eq_some_iff.mp ho
    obtain rfl := Option.some.inj heq
    exact h _ _ hv ha'

namespace Fields

variable {names : List String} {fields : Fields} {name : String} {a : α}

theorem mem_of_lookup {v : Value} (h : fields.lookup name = some v) : (name, v) ∈ fields := by
  obtain ⟨front, back, rfl, _⟩ := List.lookup_eq_some_iff.mp h
  exact List.mem_append_right front List.mem_cons_self

theorem fits_of_addEntries {entries : List (Value × Value)} {done : Fields}
    (hentries : ∀ e ∈ entries, e.2.Fits) (hdone : ∀ e ∈ done, e.2.Fits)
    (h : addEntries names done entries = some fields) : ∀ e ∈ fields, e.2.Fits := by
  induction entries generalizing done with
  | nil =>
    obtain rfl := Option.some.inj h
    exact hdone
  | cons e entries ih =>
    obtain ⟨hvalue, hrest⟩ := List.forall_mem_cons.mp hentries
    obtain ⟨field, _, h⟩ := Option.bind_eq_some_iff.mp h
    cases field with
    | none => exact ih hrest hdone h
    | some name =>
      simp only at h
      split at h
      · exact nomatch h
      · exact ih hrest (List.forall_mem_cons.mpr ⟨hvalue, hdone⟩) h

theorem views_ofValue (optional : Nat) :
    Views (ofValue? names optional) fun fields => ∀ e ∈ fields, e.2.Fits := by
  intro v fields hv hfields
  cases hv with
  | map hentries => exact fits_of_addEntries hentries (by simp) hfields
  | array _ hitems =>
    rw [ofValue?] at hfields
    split at hfields
    · obtain rfl := Option.some.inj hfields
      exact fun e he => hitems e.2 (List.of_mem_zip he).2
    · exact nomatch hfields
  | _ => exact nomatch hfields

theorem of_required (hview : Views view P) (hfields : ∀ e ∈ fields, e.2.Fits)
    (h : fields.required name view = some a) : P a := by
  obtain ⟨v, hv, ha⟩ := Option.bind_eq_some_iff.mp h
  exact hview v a (hfields _ (mem_of_lookup hv)) ha

theorem of_optional {o : Option α} (hview : Views view P) (hfields : ∀ e ∈ fields, e.2.Fits)
    (h : fields.optional name view = some o) : ∀ a ∈ o, P a := by
  rw [Fields.optional] at h
  split at h
  · obtain rfl := Option.some.inj h
    exact nofun
  · next v hv => exact hview.option v o (hfields _ (mem_of_lookup hv)) h

end Fields

end

end KernelWallet.Msgpack
