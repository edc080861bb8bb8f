import KernelWallet.Msgpack.Reader
import KernelWallet.Msgpack.Writer
import KernelWallet.Proofs.Reading

/-! Msgpack values are read back as they were written, whatever reads the values inside. -/

namespace KernelWallet.Msgpack

theorem reads_take (b : Bytes) : Reads (take b.length) b b := by
  intro rest
  simp only [take, StateT.run, List.splitAt_eq, List.take_left' rfl, List.drop_left' rfl, if_true]
  rfl

theorem reads_readNat {width n : Nat} (h : n < 256 ^ width) :
    Reads (readNat width) (Bytes.ofNatBE width n) n :=
  reads_natBE reads_take h

theorem reads_tagged {nested : Option (Reader Value)} {b : Bytes} {v : Value} (tag : Nat)
    (ht : tag < 256) (h : Reads (readTagged nested tag) b v) :
    Reads (readHead nested) (UInt8.ofNat tag :: b) v := by
  have htag : Reads (readNat 1) [UInt8.ofNat tag] tag := by
    simpa [Bytes.ofNatBE, Bytes.ofNatLE] using reads_readNat (by simpa using ht : tag < 256 ^ 1)
  exact htag.bind h

section

variable {nested : Option (Reader Value)}

theorem readTagged_nat {tag : Nat} (h : tag < 0x80) :
    readTagged nested tag = pure (.nat tag) :=
  if_pos h

theorem readTagged_entries {n : Nat} (h : n < 16) :
    readTagged nested (0x80 + n) = readEntries nested n := by
  unfold readTagged
  rw [if_neg (by omega), if_pos (by omega), Nat.add_sub_cancel_left]

theorem readTagged_items {n : Nat} (h : n < 16) :
    readTagged nested (0x90 + n) = readItems nested n := by
  unfold readTagged
  rw [if_neg (by omega), if_neg (by omega), if_pos (by omega), Nat.add_sub_cancel_left]

theorem readTagged_str {n : Nat} (h : n < 32) :
    readTagged nested (0xa0 + n) = do return .str (← take n) := by
  unfold readTagged
  rw [if_neg (by omega), if_neg (by omega), if_neg (by omega), if_pos (by omega),
    Nat.add_sub_cancel_left]

theorem reads_nil : Reads (readHead nested) writeNil .nil :=
  reads_tagged 0xc0 (by decide) (Reads.pure Value.nil)

theorem reads_nat {n : Nat} (h : n < 2 ^ 64) : Reads (readHead nested) (writeNat n) (.nat n) := by
  rw [writeNat]
  split
  · next hn =>
    refine reads_tagged n (by omega) ?_
    rw [readTagged_nat hn]
    exact Reads.pure (Value.nat n)
  · split
    · next hn => exact reads_tagged 0xcc (by decide) ((reads_readNat hn).bind_pure Value.nat)
    · split
      · next hn => exact reads_tagged 0xcd (by decide) ((reads_readNat hn).bind_pure Value.nat)
      · split
        · next hn => exact reads_tagged 0xce (by decide) ((reads_readNat hn).bind_pure Value.nat)
        · exact reads_tagged 0xcf (by decide) ((reads_readNat h).bind_pure Value.nat)

theorem reads_bin {b : Bytes} (h : b.length < 2 ^ 32) :
    Reads (readHead nested) (writeBin b) (.bin b) := by
  have hbin : ∀ width, b.length < 256 ^ width →
      Reads (do return Value.bin (← take (← readNat width))) (Bytes.ofNatBE width b.length ++ b)
        (.bin b) :=
    fun width hlt => (reads_readNat hlt).bind ((reads_take b).bind_pure Value.bin)
  rw [writeBin]
  split
  · next hn => exact reads_tagged 0xc4 (by decide) (hbin 1 hn)
  · split
    · next hn => exact reads_tagged 0xc5 (by decide) (hbin 2 hn)
    · exact reads_tagged 0xc6 (by decide) (hbin 4 h)

theorem reads_text {s : String} (h : (Bytes.ofText s).length < 2 ^ 32) :
    Reads (readHead nested) (writeText s) (.str (Bytes.ofText s)) := by
  have hstr : ∀ width, (Bytes.ofText s).length < 256 ^ width →
      Reads (do return Value.str (← take (← readNat width)))
        (Bytes.ofNatBE width (Bytes.ofText s).length ++ Bytes.ofText s) (.str (Bytes.ofText s)) :=
    fun width hlt => (reads_readNat hlt).bind ((reads_take _).bind_pure Value.str)
  rw [writeText]
  split
  · next hn =>
    rw [show (0xa0 : UInt8) = UInt8.ofNat 0xa0 from rfl, ← UInt8.ofNat_add]
    refine reads_tagged _ (by omega) ?_
    rw [readTagged_str hn]
    exact (reads_take _).bind_pure Value.str
  · split
    · next hn => exact reads_tagged 0xd9 (by decide) (hstr 1 hn)
    · split
      · next hn => exact reads_tagged 0xda (by decide) (hstr 2 hn)
      · exact reads_tagged 0xdb (by decide) (hstr 4 h)

end

/-! ## Containers -/

theorem reads_array {read : Reader Value} {items : List Bytes} {vs : List Value}
    (h : List.Forall₂ (Reads read) items vs) (hlen : items.length < 2 ^ 32) :
    Reads (readHead (some read)) (writeArray items) (.array vs) := by
  have hitems : Reads (readItems (some read) items.length) items.flatten (.array vs) := by
    rw [h.length_eq]
    exact (reads_readFrom h []).bind_pure Value.array
  rw [writeArray]
  split
  · next hn =>
    rw [show (0x90 : UInt8) = UInt8.ofNat 0x90 from rfl, ← UInt8.ofNat_add]
    refine reads_tagged _ (by omega) ?_
    rw [readTagged_items hn]
    exact hitems
  · split
    · next hn => exact reads_tagged 0xdc (by decide) ((reads_readNat hn).bind hitems)
    · exact reads_tagged 0xdd (by decide) ((reads_readNat hlen).bind hitems)

/-- The value of a record that is written as a map from the names of its fields. -/
def recordValue (fields : List (String × Value)) : Value :=
  .map (fields.map fun (name, v) => (.str (Bytes.ofText name), v))

/-- A written field is read back as the value of the same field. -/
def ReadsField (depth : Nat) (field : String × Bytes) (value : String × Value) : Prop :=
  field.1 = value.1 ∧ (Bytes.ofText field.1).length < 2 ^ 32 ∧
    Reads (readNested depth) field.2 value.2

theorem ReadsField.of {depth : Nat} {name : String} {b : Bytes} {v : Value}
    (hname : (Bytes.ofText name).length < 2 ^ 32) (h : Reads (readNested depth) b v) :
    ReadsField depth (name, b) (name, v) :=
  ⟨rfl, hname, h⟩

theorem reads_nested {depth : Nat} {b : Bytes} {v : Value}
    (h : ∀ nested, Reads (readHead nested) b v) : Reads (readNested depth) b v := by
  cases depth with
  | zero => exact h none
  | succ depth => exact h (some (readNested depth))

theorem reads_record {depth : Nat} {fields : List (String × Bytes)} {values : List (String × Value)}
    (h : List.Forall₂ (ReadsField depth) fields values) (hlen : fields.length < 16) :
    Reads (readNested (depth + 1)) (writeRecord fields) (recordValue values) := by
  have hentries : List.Forall₂ (Reads (do return (← readNested depth, ← readNested depth)))
      (fields.map fun f => writeText f.1 ++ f.2)
      (values.map fun f => (Value.str (Bytes.ofText f.1), f.2)) := by
    rw [List.forall₂_map_left_iff, List.forall₂_map_right_iff]
    refine h.imp ?_
    rintro ⟨name, value⟩ ⟨_, v⟩ ⟨rfl, hname, hvalue⟩
    exact (reads_nested fun _ => reads_text hname).bind (hvalue.bind_pure _)
  have hread := (reads_readFrom hentries []).bind_pure Value.map
  rw [List.length_map, ← h.length_eq, ← List.flatMap_def] at hread
  rw [writeRecord, show (0x80 : UInt8) = UInt8.ofNat 0x80 from rfl, ← UInt8.ofNat_add]
  refine reads_tagged _ (by omega) ?_
  rw [readTagged_entries hlen]
  exact hread

/-! ## Fields of a record -/

theorem fieldName?_str {names : List String} {name : String} (h : name ∈ names) :
    Value.fieldName? names (.str (Bytes.ofText name)) = some (some name) := by
  have hfind : names.find? (fun n => Bytes.ofText n == Bytes.ofText name) = some name := by
    induction names with
    | nil => simp at h
    | cons n names ih =>
      rw [List.find?_cons]
      split
      · next heq =>
        have htext := congrArg Bytes.toText? (beq_iff_eq.mp heq)
        rw [Bytes.toText?_ofText, Bytes.toText?_ofText] at htext
        exact htext
      · next hne =>
        refine ih (List.mem_of_ne_of_mem ?_ h)
        rintro rfl
        exact absurd hne (by simp)
  rw [Value.fieldName?, hfind]

theorem addEntries_recordValue {names : List String} {fields : List (String × Value)}
    {done : Fields} (hmem : ∀ f ∈ fields, f.1 ∈ names) (hnodup : (fields.map Prod.fst).Nodup)
    (hnew : ∀ f ∈ fields, done.lookup f.1 = none) :
    Fields.addEntries names done (fields.map fun (name, v) => (.str (Bytes.ofText name), v)) =
      some (fields.reverse ++ done) := by
  induction fields generalizing done with
  | nil => rfl
  | cons f fields ih =>
    obtain ⟨name, v⟩ := f
    rw [List.map_cons, List.nodup_cons] at hnodup
    have hname : name ∈ names := hmem (name, v) (by simp)
    have hnone : done.lookup name = none := hnew (name, v) (by simp)
    have hrest : ∀ f ∈ fields, List.lookup f.1 ((name, v) :: done) = none := by
      intro f hf
      have hne : (f.1 == name) = false := by
        rw [beq_eq_false_iff_ne]
        intro heq
        exact hnodup.1 (List.mem_map.mpr ⟨f, hf, heq⟩)
      rw [List.lookup_cons, hne]
      exact hnew f (List.mem_cons_of_mem _ hf)
    have htail := ih (fun f hf => hmem f (List.mem_cons_of_mem _ hf)) hnodup.2 hrest
    rw [List.map_cons, Fields.addEntries, fieldName?_str hname]
    simp only [Option.bind_eq_bind, Option.bind_some, hnone, Option.isSome_none]
    simpa using htail

theorem ofValue?_recordValue {names used : List String} {optional : Nat}
    {fields : List (String × Value)} (hused : fields.map Prod.fst = used) (hnodup : used.Nodup)
    (hmem : ∀ name ∈ used, name ∈ names) :
    Fields.ofValue? names optional (recordValue fields) = some fields.reverse := by
  subst hused
  have hfields : ∀ f ∈ fields, f.1 ∈ names := fun f hf => hmem f.1 (List.mem_map_of_mem hf)
  have hadd := addEntries_recordValue hfields hnodup (fun _ _ => List.lookup_nil)
  rwa [List.append_nil] at hadd

/-! ## Views -/

/-- The bytes are read as a value of which the view gives `a`. -/
def ReadsAs {α : Type} (depth : Nat) (view : Value → Option α) (b : Bytes) (a : α) : Prop :=
  ∃ v, Reads (readNested depth) b v ∧ view v = some a

section

variable (depth : Nat)

theorem readsAs_bin {b : Bytes} (h : b.length < 2 ^ 32) :
    ReadsAs depth Value.bytes? (writeBin b) b :=
  ⟨.bin b, reads_nested fun _ => reads_bin h, rfl⟩

theorem readsAs_text {s : String} (h : (Bytes.ofText s).length < 2 ^ 32) :
    ReadsAs depth Value.text? (writeText s) s :=
  ⟨.str (Bytes.ofText s), reads_nested fun _ => reads_text h, Bytes.toText?_ofText s⟩

theorem readsAs_nat {n bound : Nat} (h : n < bound) (hbound : bound ≤ 2 ^ 64) :
    ReadsAs depth (Value.nat? bound) (writeNat n) n :=
  ⟨.nat n, reads_nested fun _ => reads_nat (Nat.lt_of_lt_of_le h hbound), if_pos h⟩

variable {depth} {α β : Type} {view : Value → Option β} {write : α → Bytes} {f : α → β}

theorem option?_eq_some {v : Value} {b : β} (hnil : view .nil = none) (h : view v = some b) :
    v.option? view = some (some b) := by
  cases v with
  | nil => exact absurd (hnil.symm.trans h) (by simp)
  | _ => simp [Value.option?, h]

theorem readsAs_option {o : Option α} (hnil : view .nil = none)
    (h : ∀ a ∈ o, ReadsAs depth view (write a) (f a)) :
    ReadsAs depth (Value.option? view) (writeOption (o.map write)) (o.map f) := by
  cases o with
  | none => exact ⟨.nil, reads_nested fun _ => reads_nil, rfl⟩
  | some a =>
    obtain ⟨v, hv, hview⟩ := h a rfl
    exact ⟨v, hv, option?_eq_some hnil hview⟩

theorem readsAs_array {l : List α} (h : ∀ a ∈ l, ReadsAs depth view (write a) (f a))
    (hlen : l.length < 2 ^ 32) :
    ReadsAs (depth + 1) (fun v => do (← v.list?).mapM view) (writeArray (l.map write))
      (l.map f) := by
  have hitems : ∃ vs, List.Forall₂ (Reads (readNested depth)) (l.map write) vs ∧
      vs.mapM view = some (l.map f) := by
    induction l with
    | nil => exact ⟨[], .nil, rfl⟩
    | cons a l ih =>
      obtain ⟨v, hv, hview⟩ := h a (by simp)
      obtain ⟨vs, hvs, hviews⟩ := ih (fun a ha => h a (List.mem_cons_of_mem _ ha))
        (Nat.lt_of_succ_lt hlen)
      exact ⟨v :: vs, .cons hv hvs, by simp [hview, hviews]⟩
  obtain ⟨vs, hvs, hviews⟩ := hitems
  exact ⟨.array vs, reads_array hvs (by rwa [List.length_map]), hviews⟩

end

end KernelWallet.Msgpack
