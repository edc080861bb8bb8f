import KernelWallet.Json.Record
import Mathlib

/-! What is written as JSON reads back: numbers of a width, lists, values that may be null, records
without a repeated field, and the integers that stand as the names of fields. -/

namespace KernelWallet.Json

/-! ## Numbers -/

theorem natBelow?_nat {n bound : Nat} (h : n < bound) : (nat n).natBelow? bound = some n := by
  rw [nat, natBelow?, if_pos ⟨Int.natCast_nonneg n, Int.ofNat_lt.mpr h⟩, Int.toNat_natCast]

theorem natBelow?_eq_some_iff {j : Json} {n bound : Nat} :
    j.natBelow? bound = some n ↔ j = nat n ∧ n < bound := by
  constructor
  · intro h
    cases j with
    | int i =>
      rw [natBelow?] at h
      split at h
      · next hi =>
        obtain rfl := Option.some.inj h
        exact ⟨by rw [nat, Int.toNat_of_nonneg hi.1], by omega⟩
      · exact absurd h (by simp)
    | _ => exact absurd h (by simp [natBelow?])
  · rintro ⟨rfl, h⟩
    exact natBelow?_nat h

theorem uint8?_nat (n : UInt8) : (nat n.toNat).uint8? = some n := by
  rw [uint8?, natBelow?_nat n.toNat_lt, Option.map_some, UInt8.ofNat_toNat]

theorem uint16?_nat (n : UInt16) : (nat n.toNat).uint16? = some n := by
  rw [uint16?, natBelow?_nat n.toNat_lt, Option.map_some, UInt16.ofNat_toNat]

theorem uint16?_eq_some_iff {j : Json} {n : UInt16} : j.uint16? = some n ↔ j = nat n.toNat := by
  simp only [uint16?, Option.map_eq_some_iff, natBelow?_eq_some_iff]
  constructor
  · rintro ⟨k, ⟨rfl, hk⟩, rfl⟩
    rw [UInt16.toNat_ofNat', Nat.mod_eq_of_lt hk]
  · rintro rfl
    exact ⟨n.toNat, ⟨rfl, n.toNat_lt⟩, UInt16.ofNat_toNat⟩

theorem uint64?_nat (n : UInt64) : (nat n.toNat).uint64? = some n := by
  rw [uint64?, natBelow?_nat n.toNat_lt, Option.map_some, UInt64.ofNat_toNat]

/-! ## Texts, lists and options -/

theorem text?_str (s : String) : (str s).text? = some s := rfl

theorem mapM_map_eq_some {α β : Type} {write : α → β} {read : β → Option α}
    (h : ∀ a, read (write a) = some a) (l : List α) : (l.map write).mapM read = some l := by
  induction l with
  | nil => rfl
  | cons a l ih =>
    rw [List.map_cons, List.mapM_cons, h, ih]
    rfl

theorem mapM_eq_some_iff {α β : Type} {write : α → β} {read : β → Option α}
    (h : ∀ b a, read b = some a ↔ b = write a) {bs : List β} {l : List α} :
    bs.mapM read = some l ↔ bs = l.map write := by
  induction bs generalizing l with
  | nil =>
    rw [List.mapM_nil, eq_comm (a := []), List.map_eq_nil_iff]
    exact ⟨fun heq => (Option.some.inj heq).symm, fun heq => by rw [heq]; rfl⟩
  | cons b bs ih =>
    simp only [List.mapM_cons, Option.bind_eq_bind, Option.bind_eq_some_iff, h, ih]
    constructor
    · rintro ⟨a, rfl, l, rfl, heq⟩
      obtain rfl := Option.some.inj heq
      rfl
    · intro heq
      obtain ⟨a, l, rfl, rfl, rfl⟩ := List.map_eq_cons_iff.mp heq.symm
      exact ⟨a, rfl, l, rfl, rfl⟩

section

variable {α ε : Type} {write : α → Json} {read : Json → Option α}

theorem textOf?_str_eq_some_iff {f : String → Except ε α} {s : String} {a : α} :
    textOf? f (str s) = some a ↔ f s = .ok a := by
  have hread : textOf? f (str s) = (f s).toOption := rfl
  rw [hread]
  cases f s <;> simp [Except.toOption]

theorem list?_list (h : ∀ a, read (write a) = some a) (l : List α) :
    (list write l).list? read = some l :=
  mapM_map_eq_some h l

theorem list?_eq_some_iff (h : ∀ j a, read j = some a ↔ j = write a) {j : Json} {l : List α} :
    j.list? read = some l ↔ j = list write l := by
  cases j with
  | arr items => rw [list?, mapM_eq_some_iff h, list, arr.injEq]
  | _ => exact iff_of_false nofun nofun

/-- Null stands for none, so a value must not be written as null. -/
theorem nullable?_option (h : ∀ a, read (write a) = some a) (hnull : ∀ a, write a ≠ null)
    (o : Option α) : nullable? read (option write o) = some o := by
  cases o with
  | none => rfl
  | some a =>
    rw [option, nullable?, h, Option.map_some]
    exact hnull a

end

/-! ## Records -/

theorem record?_obj {fields : List (String × Json)} (h : (fields.map Prod.fst).Nodup)
    (names : List String) : (obj fields).record? names = some ⟨fields, false⟩ := by
  have honce : ∀ name, fields.countP (·.1 == name) ≤ 1 := by
    intro name
    have hcount := List.nodup_iff_count_le_one.mp h name
    rwa [List.count, List.countP_map] at hcount
  rw [record?, if_neg]
  simpa using fun name _ => honce name

section

variable {α β : Type} {f : Json → Option α} {j : Json} {a : α} {name : String}

theorem record?_bind {fields : List (String × Json)} {names : List String}
    {next : Record → Option β} (h : (fields.map Prod.fst).Nodup) :
    ((obj fields).record? names >>= next) = next ⟨fields, false⟩ := by
  rw [record?_obj h]
  rfl

namespace Record

variable {r : Record} {next : α → Option β}

theorem required_bind (hj : r.fields.lookup name = some j) (hf : f j = some a) :
    (r.required name f >>= next) = next a := by
  simp [required, hj, hf]

theorem optional_bind {default : α} (hj : r.fields.lookup name = some j) (hf : f j = some a) :
    (r.optional name default f >>= next) = next a := by
  simp [optional, hj, hf]

end Record

end

/-! ## Integers as names of fields -/

namespace Number

theorem head?_toDigits_ne {n : Nat} (h : n ≠ 0) : (Nat.toDigits 10 n).head? ≠ some '0' := by
  induction n using Nat.strong_induction_on with
  | _ n ih =>
    by_cases hlt : n < 10
    · rw [Nat.toDigits_of_lt_base hlt, List.head?_cons]
      exact fun heq => h (Nat.digitChar_eq_zero.mp (Option.some.inj heq))
    · rw [Nat.toDigits_of_base_le (by decide) (by omega),
        List.head?_append_of_ne_nil _ Nat.toDigits_ne_nil]
      exact ih (n / 10) (by omega) (by omega)

theorem length_toDigits_of_head? {n : Nat} (h : (Nat.toDigits 10 n).head? = some '0') :
    (Nat.toDigits 10 n).length = 1 := by
  have hzero : n = 0 := by
    by_contra hne
    exact head?_toDigits_ne hne h
  rw [hzero]
  rfl

/-- The digits of a number of 64 bits are all taken into the mantissa. -/
theorem foldl_whole {ds : List Char} (h : Nat.ofDigitChars 10 ds 0 < 2 ^ 64) :
    ds.foldl Digits.whole {} = { mantissa := Nat.ofDigitChars 10 ds 0 } := by
  induction ds using List.reverseRecOn with
  | nil => rfl
  | append_singleton ds c ih =>
    have hstep : Nat.ofDigitChars 10 (ds ++ [c]) 0 =
        10 * Nat.ofDigitChars 10 ds 0 + value c := by
      rw [Nat.ofDigitChars_append]
      rfl
    rw [hstep] at h ⊢
    rw [List.foldl_append, ih (by omega), List.foldl_cons, List.foldl_nil, Digits.whole,
      if_pos ⟨rfl, h⟩]

/-- Digits without a leading zero are the text of a whole number. -/
theorem ofChars?_of_isDigit {cs : List Char} (hdigit : ∀ c ∈ cs, c.isDigit) (hne : cs ≠ [])
    (hlead : cs.head? = some '0' → cs.length = 1) :
    ofChars? cs = some (whole false (cs.foldl Digits.whole {})) := by
  obtain ⟨c, rest, rfl⟩ := List.exists_cons_of_ne_nil hne
  have hsign : c ≠ '-' := by
    rintro rfl
    exact absurd (hdigit '-' List.mem_cons_self) (by decide)
  have htake : (c :: rest).takeWhile Char.isDigit = c :: rest :=
    List.takeWhile_eq_self_iff.mpr hdigit
  have hnozero : ((c :: rest).head? == some '0' && decide (1 < (c :: rest).length)) = false := by
    by_cases hc : (c :: rest).head? = some '0'
    · rw [hlead hc]
      simp
    · simp only [List.head?_cons, Option.some.injEq] at hc
      simp [hc]
  have hrest : (c :: rest).drop (c :: rest).length = [] := List.drop_length
  unfold ofChars?
  split
  next negative cs heq =>
    split at heq
    · next h => exact absurd (List.cons.inj h).1 hsign
    · obtain ⟨rfl, rfl⟩ := Prod.mk.inj heq
      simp only [htake, hnozero, hrest, List.isEmpty_cons, Bool.or_self]
      rfl

theorem ofChars?_toDigits {n : Nat} (h : n < 2 ^ 64) :
    ofChars? (Nat.toDigits 10 n) = some (.int n) := by
  have hdigits := @Nat.ofDigitChars_ten_toDigits n
  have hfold : (Nat.toDigits 10 n).foldl Digits.whole {} = { mantissa := n } := by
    rw [foldl_whole (by rwa [hdigits]), hdigits]
  rw [ofChars?_of_isDigit (fun _ => Nat.isDigit_of_mem_toDigits (by decide) (by decide))
    Nat.toDigits_ne_nil length_toDigits_of_head?, hfold]
  rfl

end Number

end KernelWallet.Json
