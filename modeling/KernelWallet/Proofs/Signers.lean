import KernelWallet.Transaction.Signers
import Mathlib

/-! Ascending lists of signers are left as they are by what sorts them, and of any list the last for
each signer is kept. Signer sets correspond to the bitmaps that do not end in a zero byte. -/

namespace KernelWallet

theorem foldr_keepLast_of_pairwise {α : Type} {key : α → UInt16} {l : List α}
    (h : l.Pairwise fun a b => key a < key b) : l.foldr (keepLast key) [] = l := by
  induction l with
  | nil => rfl
  | cons a l ih =>
    have ⟨ha, hl⟩ := List.pairwise_cons.mp h
    rw [List.foldr_cons, ih hl]
    cases l with
    | nil => rfl
    | cons b r =>
      have hab := ha b (by simp)
      rw [keepLast, if_neg (UInt16.ne_of_lt hab)]

theorem lastPerKey_of_pairwise {α : Type} {key : α → UInt16} {l : List α}
    (h : l.Pairwise fun a b => key a < key b) : lastPerKey key l = l := by
  have hle : l.Pairwise fun a b => decide (key a ≤ key b) = true :=
    h.imp fun hab => decide_eq_true (UInt16.le_of_lt hab)
  rw [lastPerKey, List.mergeSort_of_pairwise hle, foldr_keepLast_of_pairwise h]

section

variable {α : Type} {key : α → UInt16}

theorem mem_foldr_keepLast {l₁ l₂ : List α} {a : α} (hlast : ∀ b ∈ l₂, key b ≠ key a) :
    a ∈ (l₁ ++ a :: l₂).foldr (keepLast key) [] := by
  induction l₁ with
  | nil =>
    rw [List.nil_append, List.foldr_cons]
    cases hl : l₂.foldr (keepLast key) [] with
    | nil => exact List.mem_singleton_self a
    | cons b rest =>
      have hb : b ∈ l₂ := mem_of_mem_foldr_keepLast (hl ▸ List.mem_cons_self)
      rw [keepLast, if_neg (hlast b hb).symm]
      exact List.mem_cons_self
  | cons x l₁ ih =>
    rw [List.cons_append, List.foldr_cons]
    cases hl : (l₁ ++ a :: l₂).foldr (keepLast key) [] with
    | nil => exact absurd (hl ▸ ih) List.not_mem_nil
    | cons b rest =>
      rw [hl] at ih
      rw [keepLast]
      split
      · exact ih
      · exact List.mem_cons_of_mem x ih

/-- Sorting leaves elements with the same key in their order. -/
theorem filter_mergeSort (key : α → UInt16) (k : UInt16) (l : List α) :
    (l.mergeSort fun a b => key a ≤ key b).filter (key · = k) = l.filter (key · = k) := by
  have hsorted : (l.filter (key · = k)).Pairwise fun a b => decide (key a ≤ key b) = true := by
    refine List.pairwise_of_forall_mem_list fun a ha b hb => ?_
    rw [of_decide_eq_true (List.mem_filter.mp ha).2, of_decide_eq_true (List.mem_filter.mp hb).2]
    exact decide_eq_true (UInt16.le_refl k)
  have hsub : (l.filter (key · = k)).Sublist (l.mergeSort fun a b => key a ≤ key b) := by
    refine List.sublist_mergeSort (fun a b c hab hbc => ?_) (fun a b => ?_) hsorted
      List.filter_sublist
    · exact decide_eq_true (UInt16.le_trans (of_decide_eq_true hab) (of_decide_eq_true hbc))
    · simpa using UInt16.le_total (key a) (key b)
  have hfilter := hsub.filter (key · = k)
  rw [List.filter_filter] at hfilter
  simp only [Bool.and_self] at hfilter
  have hlen := ((List.mergeSort_perm l fun a b => key a ≤ key b).filter (key · = k)).length_eq
  exact (hfilter.eq_of_length hlen.symm).symm

theorem mem_map_foldr_keepLast {k : UInt16} {l : List α} :
    k ∈ (l.foldr (keepLast key) []).map key ↔ k ∈ l.map key := by
  induction l with
  | nil => rfl
  | cons a l ih =>
    rw [List.foldr_cons, List.map_cons, List.mem_cons, ← ih]
    cases l.foldr (keepLast key) [] with
    | nil => simp [keepLast]
    | cons b rest =>
      rw [keepLast]
      split
      · next heq => simp [heq]
      · simp

theorem mem_map_lastPerKey {k : UInt16} {l : List α} :
    k ∈ (lastPerKey key l).map key ↔ k ∈ l.map key := by
  rw [lastPerKey, mem_map_foldr_keepLast]
  exact ((List.mergeSort_perm l fun a b => key a ≤ key b).map key).mem_iff

/-- Of the elements that share a key, the last is kept. -/
theorem mem_lastPerKey {l₁ l₂ : List α} {a : α} (hlast : ∀ b ∈ l₂, key b ≠ key a) :
    a ∈ lastPerKey key (l₁ ++ a :: l₂) := by
  have hempty : l₂.filter (key · = key a) = [] := by
    rw [List.filter_eq_nil_iff]
    simpa using hlast
  have hfilter := filter_mergeSort key (key a) (l₁ ++ a :: l₂)
  rw [List.filter_append, List.filter_cons_of_pos (by simp), hempty] at hfilter
  obtain ⟨s₁, s₂, hs, _, h₂⟩ := List.filter_eq_append_iff.mp hfilter
  obtain ⟨t₁, t₂, ht, _, _, hnone⟩ := List.filter_eq_cons_iff.mp h₂
  rw [List.filter_eq_nil_iff] at hnone
  rw [lastPerKey, hs, ht, ← List.append_assoc]
  exact mem_foldr_keepLast (by simpa using hnone)

end

theorem SignerMap.ofList_entries (m : SignerMap) : ofList m.entries = m := by
  simp only [ofList, lastPerKey_of_pairwise m.ascending]

namespace SignerSet

theorem mem_toList_ofList {l : List UInt16} {m : UInt16} : m ∈ (ofList l).toList ↔ m ∈ l := by
  have h := @mem_map_lastPerKey UInt16 id m l
  rwa [List.map_id, List.map_id] at h

theorem toList_ofList {l : List UInt16} (h : l.Pairwise (· < ·)) : (ofList l).toList = l := by
  have hid : l.Pairwise fun a b => id a < id b := h
  exact lastPerKey_of_pairwise hid

theorem eq_of_toList_eq {s t : SignerSet} (h : s.toList = t.toList) : s = t := by
  cases s
  cases t
  cases h
  rfl

theorem ofList_toList (s : SignerSet) : ofList s.toList = s :=
  eq_of_toList_eq (toList_ofList s.ascending)

/-! ## Bits of a bitmap -/

/-- The bit at a position, counted through the bytes from the low bit of the first. -/
def bitAt (bitmap : Bytes) (k : Nat) : Bool :=
  (bitmap[k / 8]?.getD 0).toNat.testBit (k % 8)

theorem testBit_or_bit (x : UInt8) (m : UInt16) {j : Nat} (hj : j < 8) :
    (x ||| 1 <<< (m % 8).toUInt8).toNat.testBit j = (x.toNat.testBit j || j == m.toNat % 8) := by
  have hm : (m % 8).toUInt8.toNat = m.toNat % 8 := by
    simp only [UInt16.toNat_toUInt8, UInt16.toNat_mod]
    exact Nat.mod_eq_of_lt ((Nat.mod_lt _ (by decide)).trans (by decide))
  have hbit : (1 <<< (m % 8).toUInt8 : UInt8).toNat = 2 ^ (m.toNat % 8) % 2 ^ 8 := by
    rw [UInt8.toNat_shiftLeft, hm, Nat.mod_mod, Nat.shiftLeft_eq]
    simp
  rw [UInt8.toNat_or, Nat.testBit_or, hbit, Nat.testBit_mod_two_pow, Nat.testBit_two_pow]
  simp [hj, eq_comm, beq_eq_decide]

theorem bitAt_modify {bytes : Array UInt8} {m : UInt16} (h : m.toNat / 8 < bytes.size) (k : Nat) :
    bitAt (bytes.modify (m.toNat / 8) (· ||| 1 <<< (m % 8).toUInt8)).toList k =
      (bitAt bytes.toList k || k == m.toNat) := by
  have hj : k % 8 < 8 := Nat.mod_lt _ (by decide)
  by_cases hk : k / 8 = m.toNat / 8
  · have hpos : (k % 8 == m.toNat % 8) = (k == m.toNat) := by
      rw [Bool.eq_iff_iff]
      simp only [beq_iff_eq]
      omega
    simp only [bitAt, Array.getElem?_toList, Array.getElem?_modify, hk, if_true,
      Array.getElem?_eq_getElem h, Option.map_some, Option.getD_some, testBit_or_bit _ _ hj, hpos]
  · have hne : (k == m.toNat) = false := by
      simp only [beq_eq_false_iff_ne]
      exact fun he => hk (by rw [he])
    simp only [bitAt, Array.getElem?_toList, Array.getElem?_modify, Ne.symm hk, if_false, hne,
      Bool.or_false]

theorem bitAt_foldl {l : List UInt16} {bytes : Array UInt8}
    (h : ∀ m ∈ l, m.toNat / 8 < bytes.size) (k : Nat) :
    bitAt (l.foldl (fun bytes m => bytes.modify (m.toNat / 8) (· ||| 1 <<< (m % 8).toUInt8))
      bytes).toList k = (bitAt bytes.toList k || l.any (k == ·.toNat)) := by
  induction l generalizing bytes with
  | nil => simp
  | cons m l ih =>
    have hl : ∀ x ∈ l, x.toNat / 8 <
        (bytes.modify (m.toNat / 8) (· ||| 1 <<< (m % 8).toUInt8)).size := by
      intro x hx
      rw [Array.size_modify]
      exact h x (List.mem_cons_of_mem _ hx)
    rw [List.foldl_cons, ih hl, bitAt_modify (h m (by simp)), List.any_cons, Bool.or_assoc]

theorem size_foldl_modify (l : List UInt16) (bytes : Array UInt8) :
    (l.foldl (fun bytes m => bytes.modify (m.toNat / 8) (· ||| 1 <<< (m % 8).toUInt8))
      bytes).size = bytes.size := by
  induction l generalizing bytes with
  | nil => rfl
  | cons m l ih => rw [List.foldl_cons, ih, Array.size_modify]

@[simp] theorem length_bitmap (s : SignerSet) : s.bitmap.length = s.bitmapLength := by
  simp [bitmap, size_foldl_modify]

theorem getLast?_le {s : SignerSet} {m last : UInt16} (hm : m ∈ s.toList)
    (hl : s.toList.getLast? = some last) : m ≤ last := by
  obtain ⟨front, hf⟩ := List.getLast?_eq_some_iff.mp hl
  have hasc := s.ascending
  rw [hf] at hm hasc
  rcases List.mem_append.mp hm with hm | hm
  · exact UInt16.le_of_lt ((List.pairwise_append.mp hasc).2.2 m hm last (by simp))
  · exact UInt16.le_of_eq (List.mem_singleton.mp hm)

theorem lt_bitmapLength {s : SignerSet} {m : UInt16} (h : m ∈ s.toList) :
    m.toNat / 8 < s.bitmapLength := by
  cases hl : s.toList.getLast? with
  | none => simp [List.getLast?_eq_none_iff.mp hl] at h
  | some last =>
    have hle := UInt16.le_iff_toNat_le.mp (getLast?_le h hl)
    simp only [bitmapLength, hl]
    omega

theorem bitAt_bitmap (s : SignerSet) (k : Nat) :
    bitAt s.bitmap k = s.toList.any (k == ·.toNat) := by
  have hzero : bitAt (Array.replicate s.bitmapLength 0).toList k = false := by
    simp only [bitAt, Array.getElem?_toList, Array.getElem?_replicate]
    split <;> simp
  rw [bitmap, bitAt_foldl (fun m hm => by simpa using lt_bitmapLength hm), hzero, Bool.false_or]

theorem bitAt_bitmap_toNat {s : SignerSet} {m : UInt16} :
    bitAt s.bitmap m.toNat = true ↔ m ∈ s.toList := by
  rw [bitAt_bitmap, List.any_eq_true]
  constructor
  · rintro ⟨x, hx, he⟩
    rwa [UInt16.toNat_inj.mp (beq_iff_eq.mp he)]
  · exact fun hm => ⟨m, hm, beq_self_eq_true _⟩

theorem bitAt_of_length_le {bitmap : Bytes} {k : Nat} (h : bitmap.length ≤ k / 8) :
    bitAt bitmap k = false := by
  simp [bitAt, List.getElem?_eq_none h]

theorem eq_of_bitAt {b b' : Bytes} (hlen : b.length = b'.length)
    (h : ∀ k, bitAt b k = bitAt b' k) : b = b' := by
  apply List.ext_getElem hlen
  intro i hb hb'
  apply UInt8.toNat_inj.mp
  apply Nat.eq_of_testBit_eq
  intro j
  by_cases hj : j < 8
  · have hbit := h (8 * i + j)
    have hdiv : (8 * i + j) / 8 = i := by omega
    have hmod : (8 * i + j) % 8 = j := by omega
    simpa [bitAt, hdiv, hmod, hb, hb'] using hbit
  · have hpow : 2 ^ 8 ≤ 2 ^ j := Nat.pow_le_pow_right (by decide) (by omega)
    rw [Nat.testBit_lt_two_pow (b[i].toNat_lt.trans_le hpow),
      Nat.testBit_lt_two_pow (b'[i].toNat_lt.trans_le hpow)]

/-! ## The signers of a bitmap -/

theorem toNat_signerAt {i bit : Nat} (hi : i < 8192) (hbit : bit < 8) :
    (UInt16.ofNat i * 8 + UInt16.ofNat bit).toNat = 8 * i + bit := by
  simp only [UInt16.toNat_add, UInt16.toNat_mul, UInt16.toNat_ofNat', UInt16.reduceToNat]
  omega

theorem mem_ofBitmapByte {b : UInt8} {i : Nat} (hi : i < 8192) {m : UInt16} :
    m ∈ ofBitmapByte b i ↔ m.toNat / 8 = i ∧ b.toNat.testBit (m.toNat % 8) = true := by
  simp only [ofBitmapByte, List.mem_filterMap, List.mem_range]
  constructor
  · rintro ⟨bit, hbit, hm⟩
    split at hm
    · next hset =>
      obtain rfl := Option.some.inj hm
      rw [toNat_signerAt hi hbit]
      have hdiv : (8 * i + bit) / 8 = i := by omega
      have hmod : (8 * i + bit) % 8 = bit := by omega
      exact ⟨hdiv, by rw [hmod, hset]⟩
    · exact absurd hm (by simp)
  · rintro ⟨hdiv, hset⟩
    refine ⟨m.toNat % 8, Nat.mod_lt _ (by decide), ?_⟩
    rw [if_pos hset, Option.some_inj, ← UInt16.toNat_inj,
      toNat_signerAt hi (Nat.mod_lt _ (by decide))]
    omega

theorem mem_listOfBitmap {bitmap : Bytes} (h : bitmap.length ≤ 8192) {m : UInt16} :
    m ∈ listOfBitmap bitmap ↔ bitAt bitmap m.toNat = true := by
  simp only [listOfBitmap, List.mem_flatMap, Prod.exists, List.mem_zipIdx_iff_getElem?]
  constructor
  · rintro ⟨b, i, hb, hm⟩
    obtain ⟨hi, rfl⟩ := List.getElem?_eq_some_iff.mp hb
    obtain ⟨hdiv, hset⟩ := (mem_ofBitmapByte (hi.trans_le h)).mp hm
    rw [bitAt, hdiv, hb]
    exact hset
  · intro hset
    cases hb : bitmap[m.toNat / 8]? with
    | none => simp [bitAt, hb] at hset
    | some b =>
      have hi := (List.getElem?_eq_some_iff.mp hb).1
      refine ⟨b, m.toNat / 8, hb, (mem_ofBitmapByte (hi.trans_le h)).mpr ⟨rfl, ?_⟩⟩
      simpa [bitAt, hb] using hset

theorem pairwise_ofBitmapByte {i : Nat} (hi : i < 8192) (b : UInt8) :
    (ofBitmapByte b i).Pairwise (· < ·) := by
  rw [ofBitmapByte, List.pairwise_filterMap]
  refine List.pairwise_lt_range.imp_of_mem fun {x y} hx hy hxy m hm n hn => ?_
  split at hm <;> split at hn <;> simp only [Option.some.injEq, reduceCtorEq] at hm hn
  rw [← hm, ← hn, UInt16.lt_iff_toNat_lt, toNat_signerAt hi (List.mem_range.mp hx),
    toNat_signerAt hi (List.mem_range.mp hy)]
  omega

theorem pairwise_listOfBitmap {bitmap : Bytes} (h : bitmap.length ≤ 8192) :
    (listOfBitmap bitmap).Pairwise (· < ·) := by
  rw [listOfBitmap, List.pairwise_flatMap]
  constructor
  · rintro ⟨b, i⟩ hb
    have hi := (List.getElem?_eq_some_iff.mp (List.mem_zipIdx_iff_getElem?.mp hb)).1
    exact pairwise_ofBitmapByte (hi.trans_le h) b
  · rw [List.pairwise_iff_getElem]
    intro i j hi hj hij m hm n hn
    rw [List.length_zipIdx] at hi hj
    rw [List.getElem_zipIdx] at hm hn
    have hmi := ((mem_ofBitmapByte (by omega)).mp hm).1
    have hnj := ((mem_ofBitmapByte (by omega)).mp hn).1
    rw [UInt16.lt_iff_toNat_lt]
    omega

theorem bitmapLength_le (s : SignerSet) : s.bitmapLength ≤ 8192 := by
  rw [bitmapLength]
  split
  · exact Nat.zero_le _
  · next m _ =>
    have hm := m.toNat_lt
    omega

theorem listOfBitmap_bitmap (s : SignerSet) : listOfBitmap s.bitmap = s.toList := by
  have hlen : s.bitmap.length ≤ 8192 := by simpa using s.bitmapLength_le
  apply (pairwise_listOfBitmap hlen).eq_of_mem_iff s.ascending
  intro m
  rw [mem_listOfBitmap hlen, bitAt_bitmap_toNat]

theorem getLast?_bitmap_ne (s : SignerSet) : s.bitmap.getLast? ≠ some 0 := by
  intro hz
  cases hl : s.toList.getLast? with
  | none =>
    have hlen : s.bitmap.length = 0 := by simp [bitmapLength, hl]
    simp [List.length_eq_zero_iff.mp hlen] at hz
  | some last =>
    have hset : bitAt s.bitmap last.toNat = true := by
      rw [bitAt_bitmap, List.any_eq_true]
      exact ⟨last, List.mem_of_getLast? hl, beq_self_eq_true _⟩
    have hlen : s.bitmap.length - 1 = last.toNat / 8 := by simp [bitmapLength, hl]
    rw [List.getLast?_eq_getElem?, hlen] at hz
    simp [bitAt, hz] at hset

theorem lt_bitmapLength_of_mem_listOfBitmap {bitmap : Bytes} (h : bitmap.length ≤ 8192)
    {m : UInt16} (hm : m ∈ listOfBitmap bitmap) : m.toNat / 8 < bitmap.length := by
  apply Nat.lt_of_not_le
  intro hle
  have hset := (mem_listOfBitmap h).mp hm
  rw [bitAt_of_length_le hle] at hset
  exact Bool.false_ne_true hset

/-- The last byte of a bitmap that is not zero holds its greatest signer. -/
theorem bitmapLength_ofList {bitmap : Bytes} (h : bitmap.length ≤ 8192)
    (hlast : bitmap.getLast? ≠ some 0) :
    (ofList (listOfBitmap bitmap)).bitmapLength = bitmap.length := by
  have hlist := toList_ofList (pairwise_listOfBitmap h)
  cases hb : bitmap.getLast? with
  | none =>
    obtain rfl := List.getLast?_eq_none_iff.mp hb
    rw [bitmapLength, hlist]
    rfl
  | some x =>
    obtain ⟨front, rfl⟩ := List.getLast?_eq_some_iff.mp hb
    have hlen : (front ++ [x]).length = front.length + 1 := by simp
    have hx : x.toNat ≠ 0 := by
      intro hz
      have hzero : x = 0 := UInt8.toNat_inj.mp hz
      exact hlast (by rw [hb, hzero])
    obtain ⟨j, hj⟩ := Nat.exists_testBit_of_ne_zero hx
    have hj8 : j < 8 := by
      apply Nat.lt_of_not_le
      intro hle
      have hpow : 2 ^ 8 ≤ 2 ^ j := Nat.pow_le_pow_right (by decide) hle
      rw [Nat.testBit_lt_two_pow (x.toNat_lt.trans_le hpow)] at hj
      exact Bool.false_ne_true hj
    -- some signer stands in the last byte, and no signer stands behind it
    have htop : UInt16.ofNat (8 * front.length + j) ∈ listOfBitmap (front ++ [x]) := by
      have hdiv : (8 * front.length + j) / 8 = front.length := by omega
      have hmod : (8 * front.length + j) % 8 = j := by omega
      rw [mem_listOfBitmap h, UInt16.toNat_ofNat', Nat.mod_eq_of_lt (by omega)]
      simpa [bitAt, hdiv, hmod] using hj
    rw [← hlist] at htop
    cases hl : (ofList (listOfBitmap (front ++ [x]))).toList.getLast? with
    | none => simp [List.getLast?_eq_none_iff.mp hl] at htop
    | some last =>
      have hle := UInt16.le_iff_toNat_le.mp (getLast?_le htop hl)
      rw [UInt16.toNat_ofNat', Nat.mod_eq_of_lt (by omega)] at hle
      have hmem := List.mem_of_getLast? hl
      rw [hlist] at hmem
      have hlt := lt_bitmapLength_of_mem_listOfBitmap h hmem
      rw [bitmapLength, hl, hlen]
      simp only
      omega

/-- A bitmap that does not end in a zero byte is the bitmap of its signers. -/
theorem bitmap_ofList {bitmap : Bytes} (h : bitmap.length ≤ 8192)
    (hlast : bitmap.getLast? ≠ some 0) : (ofList (listOfBitmap bitmap)).bitmap = bitmap := by
  have hlist := toList_ofList (pairwise_listOfBitmap h)
  have hlen := bitmapLength_ofList h hlast
  apply eq_of_bitAt (by rw [length_bitmap, hlen])
  intro k
  by_cases hk : bitmap.length ≤ k / 8
  · rw [bitAt_of_length_le hk, bitAt_of_length_le (by rwa [length_bitmap, hlen])]
  · have hk16 : k < 2 ^ 16 := by omega
    have hkn : (UInt16.ofNat k).toNat = k := by
      rw [UInt16.toNat_ofNat', Nat.mod_eq_of_lt hk16]
    rw [bitAt_bitmap, hlist, Bool.eq_iff_iff, List.any_eq_true]
    constructor
    · rintro ⟨m, hm, he⟩
      rw [beq_iff_eq.mp he]
      exact (mem_listOfBitmap h).mp hm
    · intro hset
      exact ⟨UInt16.ofNat k, (mem_listOfBitmap h).mpr (by rwa [hkn]), by rw [hkn, beq_self_eq_true]⟩

end SignerSet

end KernelWallet
