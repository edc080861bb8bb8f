import KernelWallet.Proofs.Wire.Field

/-! The spellings that the readers of the big-endian form accept: the written one, and others with
zeros in front of the amounts in it. -/

namespace KernelWallet.Wire

variable {α : Type}

/-- An amount behind its length, with zeros in front. -/
def amountField (zeros : Nat) (a : Amount) : Bytes :=
  Bytes.ofNatBE 2 (zeros + a.toBytes.length) ++ (List.replicate zeros 0 ++ a.toBytes)

/-- The second byte string is the first with zeros put in front of amounts. The amounts in the two
are those of the list, in order. -/
inductive Respelled : List Amount → Bytes → Bytes → Prop where
  | nil : Respelled [] [] []
  | same (front : Bytes) {as : List Amount} {b c : Bytes} :
      Respelled as b c → Respelled as (front ++ b) (front ++ c)
  | amount (a : Amount) {zeros : Nat} (hlen : zeros + a.toBytes.length < 2 ^ 16)
      {as : List Amount} {b c : Bytes} :
      Respelled as b c → Respelled (a :: as) (amountField 0 a ++ b) (amountField zeros a ++ c)

theorem length_amountField (zeros : Nat) (a : Amount) :
    (amountField zeros a).length = zeros + (amountField 0 a).length := by
  simp [amountField]
  omega

namespace Respelled

theorem refl (b : Bytes) : Respelled [] b b := by
  simpa using Respelled.nil.same b

theorem append {as as' : List Amount} {b b' c c' : Bytes} (h : Respelled as b c)
    (h' : Respelled as' b' c') : Respelled (as ++ as') (b ++ b') (c ++ c') := by
  induction h with
  | nil => exact h'
  | same front _ ih =>
    rw [List.append_assoc, List.append_assoc]
    exact ih.same front
  | amount a hlen _ ih =>
    rw [List.append_assoc, List.append_assoc]
    exact ih.amount a hlen

theorem length_le {as : List Amount} {b c : Bytes} (h : Respelled as b c) :
    b.length ≤ c.length := by
  induction h with
  | nil => exact Nat.le_refl _
  | same front _ ih =>
    rw [List.length_append, List.length_append]
    omega
  | @amount a zeros hlen as b c _ ih =>
    have hfield := length_amountField zeros a
    rw [List.length_append, List.length_append]
    omega

theorem eq_of_length_eq {as : List Amount} {b c : Bytes} (h : Respelled as b c)
    (hlen : b.length = c.length) : b = c := by
  induction h with
  | nil => rfl
  | same front _ ih =>
    rw [List.length_append, List.length_append] at hlen
    rw [ih (by omega)]
  | @amount a zeros _ as b c h ih =>
    have hle := h.length_le
    have hfield := length_amountField zeros a
    rw [List.length_append, List.length_append] at hlen
    obtain rfl : zeros = 0 := by omega
    rw [ih (by omega)]

end Respelled

/-- A reader has gone from `s` to `rest` over one of the spellings of `b`. -/
def SpelledAs (b : Bytes) (amounts : List Amount) (s rest : Bytes) : Prop :=
  ∃ front, s = front ++ rest ∧ Respelled amounts b front

/-- A reader has gone from `s` to `rest` over something that can be written. -/
def Spelled (written : Except EncodeError Bytes) (amounts : List Amount) (s rest : Bytes) : Prop :=
  ∃ b, written = .ok b ∧ SpelledAs b amounts s rest

theorem SpelledAs.same (b rest : Bytes) : SpelledAs b [] (b ++ rest) rest :=
  ⟨b, rfl, .refl b⟩

theorem SpelledAs.append {as as' : List Amount} {b b' s t rest : Bytes} (h : SpelledAs b as s t)
    (h' : SpelledAs b' as' t rest) : SpelledAs (b ++ b') (as ++ as') s rest := by
  obtain ⟨front, rfl, hr⟩ := h
  obtain ⟨front', rfl, hr'⟩ := h'
  exact ⟨front ++ front', (List.append_assoc ..).symm, hr.append hr'⟩

theorem spelled_of_exists {written : Except EncodeError Bytes} {s rest : Bytes}
    (h : ∃ b, written = .ok b ∧ s = b ++ rest) : Spelled written [] s rest := by
  obtain ⟨b, hb, rfl⟩ := h
  exact ⟨b, hb, .same b rest⟩

/-! ## Fields with one spelling -/

theorem eq_of_take {n : Nat} {s b rest : Bytes} (h : (take n).run s = .ok (b, rest)) :
    b.length = n ∧ s = b ++ rest := by
  rw [run_take] at h
  split at h
  · next hlen =>
    obtain ⟨rfl, rfl⟩ := Prod.mk.inj (Except.ok.inj h)
    exact ⟨hlen, (List.take_append_drop n s).symm⟩
  · exact absurd h (by simp)

theorem eq_of_takeVector {n : Nat} {s rest : Bytes} {v : Vector UInt8 n}
    (h : (takeVector n).run s = .ok (v, rest)) : s = v.toList ++ rest := by
  rw [run_takeVector] at h
  split at h
  · next w hw =>
    obtain ⟨rfl, rfl⟩ := Prod.mk.inj (Except.ok.inj h)
    rw [Bytes.toList_of_toVector? hw, List.take_append_drop]
  · exact absurd h (by simp)

theorem eq_of_readNat {width n : Nat} {s rest : Bytes} (h : (readNat width).run s = .ok (n, rest)) :
    n < 256 ^ width ∧ s = Bytes.ofNatBE width n ++ rest := by
  obtain ⟨b, hb, rfl⟩ := run_bind_pure_eq_ok_iff.mp h
  obtain ⟨hlen, rfl⟩ := eq_of_take hb
  have hlt := Bytes.toNatBE_lt b
  have hbytes := Bytes.ofNatBE_toNatBE b
  rw [hlen] at hlt hbytes
  exact ⟨hlt, by rw [hbytes]⟩

theorem eq_of_readUInt8 {n : UInt8} {s rest : Bytes} (h : readUInt8.run s = .ok (n, rest)) :
    s = n :: rest := by
  obtain ⟨m, hm, rfl⟩ := run_bind_pure_eq_ok_iff.mp h
  exact (eq_of_readNat hm).2

theorem eq_of_readUInt16 {n : UInt16} {s rest : Bytes} (h : readUInt16.run s = .ok (n, rest)) :
    s = writeUInt16 n ++ rest := by
  obtain ⟨m, hm, rfl⟩ := run_bind_pure_eq_ok_iff.mp h
  obtain ⟨hlt, rfl⟩ := eq_of_readNat hm
  rw [writeUInt16, UInt16.toNat_ofNat_of_lt' hlt]

theorem eq_of_readUInt64 {n : UInt64} {s rest : Bytes} (h : readUInt64.run s = .ok (n, rest)) :
    s = writeUInt64 n ++ rest := by
  obtain ⟨m, hm, rfl⟩ := run_bind_pure_eq_ok_iff.mp h
  obtain ⟨hlt, rfl⟩ := eq_of_readNat hm
  rw [writeUInt64, UInt64.toNat_ofNat_of_lt' hlt]

theorem eq_of_readHash {a : Hash} {s rest : Bytes} (h : readHash.run s = .ok (a, rest)) :
    s = a.toBytes ++ rest := by
  obtain ⟨v, hv, rfl⟩ := run_bind_pure_eq_ok_iff.mp h
  exact eq_of_takeVector hv

theorem eq_of_readKey {k : Key} {s rest : Bytes} (h : readKey.run s = .ok (k, rest)) :
    s = k.toBytes ++ rest := by
  obtain ⟨v, hv, rfl⟩ := run_bind_pure_eq_ok_iff.mp h
  exact eq_of_takeVector hv

theorem eq_of_readSignature {a : Signature} {s rest : Bytes}
    (h : readSignature.run s = .ok (a, rest)) : s = a.toBytes ++ rest := by
  obtain ⟨v, hv, rfl⟩ := run_bind_pure_eq_ok_iff.mp h
  exact eq_of_takeVector hv

theorem exists_writeCount {n : Nat} {s rest : Bytes} (field : String)
    (h : (readNat 2).run s = .ok (n, rest)) : ∃ b, writeCount field n = .ok b ∧ s = b ++ rest := by
  obtain ⟨hlt, rfl⟩ := eq_of_readNat h
  exact ⟨_, writeCount_eq_ok_iff.mpr ⟨hlt, rfl⟩, rfl⟩

theorem exists_writeBytes {bytes s rest : Bytes} (field : String)
    (h : readBytes.run s = .ok (bytes, rest)) :
    ∃ b, writeBytes field bytes = .ok b ∧ s = b ++ rest := by
  obtain ⟨n, t, hn, h⟩ := run_bind_eq_ok_iff.mp h
  obtain ⟨rfl, rfl⟩ := eq_of_take h
  obtain ⟨count, hcount, rfl⟩ := exists_writeCount field hn
  refine ⟨count ++ bytes, ?_, (List.append_assoc ..).symm⟩
  rw [writeBytes, hcount]
  rfl

theorem exists_writeText {text : String} {s rest : Bytes} (field : String)
    (h : readText.run s = .ok (text, rest)) :
    ∃ b, writeText field text = .ok b ∧ s = b ++ rest := by
  obtain ⟨bytes, t, hbytes, h⟩ := run_bind_eq_ok_iff.mp h
  split at h
  · next hs =>
    obtain ⟨rfl, rfl⟩ := Prod.mk.inj (Except.ok.inj h)
    rw [writeText, Bytes.ofText_of_toText? hs]
    exact exists_writeBytes field hbytes
  · exact absurd h (run_throw_ne_ok _ _ _)

/-! ## Amounts -/

theorem writeAmount_eq (a : Amount) : writeAmount a = .ok (amountField 0 a) := by
  have hlen : a.toBytes.length < 2 ^ 16 := a.length_toBytes_le.trans_lt (by decide)
  rw [writeAmount, writeBytes, writeCount_eq_ok_iff.mpr ⟨hlen, rfl⟩, amountField, Nat.zero_add]
  rfl

theorem spelled_amount {a : Amount} {s rest : Bytes} (h : readAmount.run s = .ok (a, rest)) :
    Spelled (writeAmount a) [a] s rest := by
  obtain ⟨bytes, t, hbytes, h⟩ := run_bind_eq_ok_iff.mp h
  split at h
  · next x hx =>
    obtain ⟨rfl, rfl⟩ := Prod.mk.inj (Except.ok.inj h)
    obtain ⟨zeros, rfl⟩ := Amount.exists_zeros_of_ofBytes hx
    obtain ⟨b, hb, rfl⟩ := exists_writeBytes "amount" hbytes
    obtain ⟨count, hcount, hb⟩ := bind_eq_ok_iff.mp hb
    obtain rfl := Except.ok.inj hb
    obtain ⟨hlt, rfl⟩ := writeCount_eq_ok_iff.mp hcount
    rw [List.length_append, List.length_replicate] at hlt ⊢
    refine ⟨amountField 0 x, writeAmount_eq x, amountField zeros x, rfl, ?_⟩
    simpa using Respelled.nil.amount x hlt
  · exact absurd h (run_throw_ne_ok _ _ _)

/-! ## Lists and optional parts -/

/-- The reader goes from the first bytes to the last and gives the elements of the list on the
way. -/
inductive ReadEach (read : Reader α) : Bytes → List α → Bytes → Prop where
  | nil (s : Bytes) : ReadEach read s [] s
  | cons {s t rest : Bytes} {a : α} {as : List α} :
      read.run s = .ok (a, t) → ReadEach read t as rest → ReadEach read s (a :: as) rest

theorem readEach_of_readFrom {read : Reader α} {n : Nat} {done l : List α} {s rest : Bytes}
    (h : (readFrom read n done).run s = .ok (l, rest)) :
    ∃ as, as.length = n ∧ l = done.reverse ++ as ∧ ReadEach read s as rest := by
  induction n generalizing done s with
  | zero =>
    obtain ⟨rfl, rfl⟩ := Prod.mk.inj (Except.ok.inj h)
    exact ⟨[], rfl, (List.append_nil _).symm, .nil _⟩
  | succ n ih =>
    obtain ⟨a, t, ha, h⟩ := run_bind_eq_ok_iff.mp h
    obtain ⟨as, hlen, rfl, has⟩ := ih h
    exact ⟨a :: as, by rw [List.length_cons, hlen], by simp, .cons ha has⟩

theorem readEach_of_readAll {read : Reader α} {n : Nat} {l : List α} {s rest : Bytes}
    (h : (readAll n read).run s = .ok (l, rest)) : l.length = n ∧ ReadEach read s l rest := by
  obtain ⟨as, hlen, rfl, has⟩ := readEach_of_readFrom h
  exact ⟨hlen, has⟩

theorem readEach_of_readList {read : Reader α} {l : List α} {s rest : Bytes} (field : String)
    (h : (readList read).run s = .ok (l, rest)) :
    ∃ b t, writeCount field l.length = .ok b ∧ s = b ++ t ∧ ReadEach read t l rest := by
  obtain ⟨n, t, hn, h⟩ := run_bind_eq_ok_iff.mp h
  obtain ⟨rfl, hl⟩ := readEach_of_readAll h
  obtain ⟨b, hb, rfl⟩ := exists_writeCount field hn
  exact ⟨b, t, hb, rfl, hl⟩

namespace ReadEach

variable {read : Reader α} {l : List α} {s rest : Bytes}

theorem forall_mem {P : α → Prop} (hread : ∀ {s a rest}, read.run s = .ok (a, rest) → P a)
    (h : ReadEach read s l rest) : ∀ a ∈ l, P a := by
  induction h with
  | nil => simp
  | cons ha _ ih => exact List.forall_mem_cons.mpr ⟨hread ha, ih⟩

theorem eq_flatMap {write : α → Bytes}
    (hread : ∀ {s a rest}, read.run s = .ok (a, rest) → s = write a ++ rest)
    (h : ReadEach read s l rest) : s = l.flatMap write ++ rest := by
  induction h with
  | nil => rfl
  | cons ha _ ih => rw [hread ha, ih, List.flatMap_cons, List.append_assoc]

theorem spelled {write : α → Except EncodeError Bytes} {amounts : α → List Amount}
    (hread : ∀ {s a rest}, read.run s = .ok (a, rest) → Spelled (write a) (amounts a) s rest)
    (h : ReadEach read s l rest) : Spelled (writeAll write l) (l.flatMap amounts) s rest := by
  induction h with
  | nil s => exact ⟨[], rfl, .same [] s⟩
  | @cons s t rest a as ha _ ih =>
    obtain ⟨b, hb, hspelled⟩ := hread ha
    obtain ⟨bs, hbs, htail⟩ := ih
    obtain ⟨written, hwritten, hbs⟩ := bind_eq_ok_iff.mp hbs
    obtain rfl := Except.ok.inj hbs
    refine ⟨b ++ written.flatten, ?_, hspelled.append htail⟩
    rw [writeAll, List.mapM_cons, hb]
    change ((as.mapM write >>= fun r => pure (b :: r)) >>= fun r => pure r.flatten) = _
    rw [hwritten]
    rfl

end ReadEach

theorem cases_of_readOption {read : Reader α} {o : Option α} {s rest : Bytes}
    (h : (readOption read).run s = .ok (o, rest)) :
    (o = none ∧ s = Marker.absent ++ rest) ∨
      ∃ a t, o = some a ∧ s = Marker.present ++ t ∧ read.run t = .ok (a, rest) := by
  obtain ⟨marker, t, hmarker, h⟩ := run_bind_eq_ok_iff.mp h
  obtain ⟨_, hs⟩ := eq_of_take hmarker
  split at h
  · next hpresent =>
    obtain ⟨a, u, ha, h⟩ := run_bind_eq_ok_iff.mp h
    obtain ⟨rfl, rfl⟩ := Prod.mk.inj (Except.ok.inj h)
    exact .inr ⟨a, t, rfl, by rw [hs, hpresent], ha⟩
  · split at h
    · next habsent =>
      obtain ⟨rfl, rfl⟩ := Prod.mk.inj (Except.ok.inj h)
      exact .inl ⟨rfl, by rw [hs, habsent]⟩
    · exact absurd h (run_throw_ne_ok _ _ _)

theorem spelled_option {read : Reader α} {write : α → Except EncodeError Bytes}
    {amounts : α → List Amount}
    (hread : ∀ {s a rest}, read.run s = .ok (a, rest) → Spelled (write a) (amounts a) s rest)
    {o : Option α} {s rest : Bytes} (h : (readOption read).run s = .ok (o, rest)) :
    Spelled (writeOption write o) (o.toList.flatMap amounts) s rest := by
  rcases cases_of_readOption h with ⟨rfl, rfl⟩ | ⟨a, t, rfl, rfl, ha⟩
  · exact ⟨Marker.absent, rfl, .same Marker.absent rest⟩
  · obtain ⟨b, hb, hspelled⟩ := hread ha
    refine ⟨Marker.present ++ b, by rw [writeOption, hb]; rfl, ?_⟩
    simpa using (SpelledAs.same Marker.present t).append hspelled

end KernelWallet.Wire
