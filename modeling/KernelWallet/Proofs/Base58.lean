import KernelWallet.Proofs.Bytes
import KernelWallet.Text.Base58

/-! Base58 text and byte strings stand for each other one to one. Between the two are the digits: a
byte string has as many leading zero digits as it has leading zero bytes, and then the digits of its
number, of which the first is not zero. -/

namespace KernelWallet

/-! ## Leading zeros -/

section

variable {α : Type} [DecidableEq α] {a : α}

theorem exists_replicate_append (a : α) (l : List α) :
    ∃ n rest, l = List.replicate n a ++ rest ∧ rest.head? ≠ some a := by
  induction l with
  | nil => exact ⟨0, [], rfl, by simp⟩
  | cons x l ih =>
    by_cases hx : x = a
    · obtain ⟨n, rest, rfl, hrest⟩ := ih
      exact ⟨n + 1, rest, by rw [hx]; rfl, hrest⟩
    · exact ⟨0, x :: l, rfl, fun h => hx (Option.some.inj h)⟩

theorem takeWhile_replicate_append {l : List α} (h : l.head? ≠ some a) (n : Nat) :
    (List.replicate n a ++ l).takeWhile (· == a) = List.replicate n a := by
  have hrest : l.takeWhile (· == a) = [] := by
    cases l with
    | nil => rfl
    | cons x l =>
      have hx : x ≠ a := fun heq => h (congrArg some heq)
      rw [List.takeWhile_cons, if_neg (by simpa using hx)]
  rw [List.takeWhile_append_of_pos (by simp), hrest, List.append_nil]

end

namespace Base58

/-! ## Digits -/

theorem digits_eq (n : Nat) (done : List Nat) :
    digits n done = (Nat.digits 58 n).reverse ++ done := by
  induction n, done using digits.induct with
  | case1 done => rw [digits, dif_pos rfl, Nat.digits_zero, List.reverse_nil, List.nil_append]
  | case2 n done hn ih =>
    rw [digits, dif_neg hn, ih, Nat.digits_def' (by decide) (Nat.pos_of_ne_zero hn),
      List.reverse_cons, List.append_assoc, List.singleton_append]

theorem ofDigits_eq (ds : List Nat) : ofDigits ds = Nat.ofDigits 58 ds.reverse := by
  rw [Nat.ofDigits_eq_foldr, List.foldr_reverse, ofDigits]
  simp only [Nat.cast_id, Nat.add_comm]

theorem ofDigits_digits (n : Nat) : ofDigits (digits n []) = n := by
  rw [digits_eq, ofDigits_eq, List.append_nil, List.reverse_reverse, Nat.ofDigits_digits]

theorem ofDigits_replicate_append (n : Nat) (ds : List Nat) :
    ofDigits (List.replicate n 0 ++ ds) = ofDigits ds := by
  rw [ofDigits_eq, ofDigits_eq, List.reverse_append, List.reverse_replicate,
    Nat.ofDigits_append_replicate_zero]

theorem digits_ofDigits {ds : List Nat} (hlt : ∀ d ∈ ds, d < 58) (hhead : ds.head? ≠ some 0) :
    digits (ofDigits ds) [] = ds := by
  have hlast : ∀ h : ds.reverse ≠ [], ds.reverse.getLast h ≠ 0 := by
    intro hne hzero
    rw [← List.getLast?_reverse] at hhead
    exact hhead ((List.getLast?_eq_some_getLast hne).trans (congrArg some hzero))
  rw [digits_eq, ofDigits_eq, Nat.digits_ofDigits 58 (by decide) _ (by simpa using hlt) hlast,
    List.append_nil, List.reverse_reverse]

theorem lt_of_mem_digits {n d : Nat} (h : d ∈ digits n []) : d < 58 := by
  rw [digits_eq, List.append_nil, List.mem_reverse] at h
  exact Nat.digits_lt_base (by decide) h

theorem head?_digits_ne (n : Nat) : (digits n []).head? ≠ some 0 := by
  rw [digits_eq, List.append_nil, List.head?_reverse]
  by_cases hn : n = 0
  · simp [hn]
  · rw [List.getLast?_eq_some_getLast (Nat.digits_ne_nil_iff_ne_zero.mpr hn)]
    exact fun h => Nat.getLast_digit_ne_zero 58 hn (Option.some.inj h)

/-- The digits of a byte string, leading zeros included. -/
def digitsOf (b : Bytes) : List Nat :=
  (b.takeWhile (· == 0)).map (fun _ => 0) ++ digits b.toNatBE []

/-- The byte string of digits, leading zeros included. -/
def bytesOf (ds : List Nat) : Bytes :=
  (ds.takeWhile (· == 0)).map (fun _ => 0) ++ Bytes.minimalBE (ofDigits ds)

theorem digitsOf_replicate_append (n : Nat) {b : Bytes} (h : b.head? ≠ some 0) :
    digitsOf (List.replicate n 0 ++ b) = List.replicate n 0 ++ digits b.toNatBE [] := by
  rw [digitsOf, takeWhile_replicate_append h, List.map_replicate, Bytes.toNatBE_replicate_append]

theorem bytesOf_replicate_append (n : Nat) {ds : List Nat} (h : ds.head? ≠ some 0) :
    bytesOf (List.replicate n 0 ++ ds) = List.replicate n 0 ++ Bytes.minimalBE (ofDigits ds) := by
  rw [bytesOf, takeWhile_replicate_append h, List.map_replicate, ofDigits_replicate_append]

theorem bytesOf_digitsOf (b : Bytes) : bytesOf (digitsOf b) = b := by
  obtain ⟨n, hb⟩ := Bytes.exists_zeros b
  have hdigits : digitsOf b = List.replicate n 0 ++ digits b.toNatBE [] := by
    conv_lhs => rw [hb]
    rw [digitsOf_replicate_append n (Bytes.head?_minimalBE_ne _), Bytes.toNatBE_minimalBE]
  rw [hdigits, bytesOf_replicate_append n (head?_digits_ne _), ofDigits_digits]
  exact hb.symm

theorem digitsOf_bytesOf {ds : List Nat} (hlt : ∀ d ∈ ds, d < 58) : digitsOf (bytesOf ds) = ds := by
  obtain ⟨n, ds, rfl, hhead⟩ := exists_replicate_append 0 ds
  -- what follows the zeros starts with another digit, so it is the digits of its number
  have hrest : ∀ d ∈ ds, d < 58 := fun d hd => hlt d (List.mem_append_right _ hd)
  rw [bytesOf_replicate_append n hhead, digitsOf_replicate_append n (Bytes.head?_minimalBE_ne _),
    Bytes.toNatBE_minimalBE, digits_ofDigits hrest hhead]

theorem lt_of_mem_digitsOf {b : Bytes} {d : Nat} (h : d ∈ digitsOf b) : d < 58 := by
  rcases List.mem_append.mp h with h | h
  · obtain ⟨_, _, rfl⟩ := List.mem_map.mp h
    decide
  · exact lt_of_mem_digits h

/-! ## Characters -/

def char (d : Nat) : Char :=
  alphabet.getD d '1'

theorem length_alphabet : alphabet.length = 58 := by decide

theorem nodup_alphabet : alphabet.Nodup := by decide

theorem value?_eq_some_iff {c : Char} {d : Nat} : value? c = some d ↔ d < 58 ∧ char d = c := by
  rw [value?, List.findIdx?_eq_some_iff_getElem, ← length_alphabet]
  constructor
  · rintro ⟨hlt, hc, _⟩
    exact ⟨hlt, (List.getElem_eq_getD _).symm.trans (beq_iff_eq.mp hc)⟩
  · rintro ⟨hlt, rfl⟩
    have hchar : alphabet[d] = char d := List.getElem_eq_getD _
    refine ⟨hlt, beq_iff_eq.mpr hchar, fun j hj heq => ?_⟩
    have hsame : alphabet[j] = alphabet[d] := (beq_iff_eq.mp heq).trans hchar.symm
    exact hj.ne (nodup_alphabet.getElem_inj_iff.mp hsame)

theorem mapM_value?_eq_some_iff {text : List Char} {ds : List Nat} :
    text.mapM value? = some ds ↔ (∀ d ∈ ds, d < 58) ∧ ds.map char = text := by
  induction text generalizing ds with
  | nil =>
    rw [List.mapM_nil, List.map_eq_nil_iff]
    constructor
    · intro h
      obtain rfl := Option.some.inj h
      exact ⟨nofun, rfl⟩
    · rintro ⟨_, rfl⟩
      rfl
  | cons c text ih =>
    simp only [List.mapM_cons, Option.bind_eq_bind, Option.bind_eq_some_iff, value?_eq_some_iff, ih,
      List.map_eq_cons_iff]
    constructor
    · rintro ⟨d, ⟨hd, hc⟩, ds, ⟨hds, htext⟩, h⟩
      obtain rfl := Option.some.inj h
      exact ⟨List.forall_mem_cons.mpr ⟨hd, hds⟩, d, ds, rfl, hc, htext⟩
    · rintro ⟨hlt, d, ds, rfl, hc, htext⟩
      obtain ⟨hd, hds⟩ := List.forall_mem_cons.mp hlt
      exact ⟨d, ⟨hd, hc⟩, ds, ⟨hds, htext⟩, rfl⟩

theorem encode_eq (b : Bytes) : encode b = (digitsOf b).map char := by
  rw [encode, digitsOf, List.map_append, List.map_map]
  rfl

theorem decode?_eq (text : List Char) : decode? text = (text.mapM value?).map bytesOf := by
  rw [decode?]
  cases text.mapM value? <;> rfl

/-- A text is read as the one byte string that it is the text of. -/
theorem decode?_eq_some_iff {text : List Char} {b : Bytes} :
    decode? text = some b ↔ encode b = text := by
  rw [decode?_eq, Option.map_eq_some_iff, encode_eq]
  simp only [mapM_value?_eq_some_iff]
  constructor
  · rintro ⟨ds, ⟨hlt, rfl⟩, rfl⟩
    rw [digitsOf_bytesOf hlt]
  · rintro rfl
    exact ⟨digitsOf b, ⟨fun d => lt_of_mem_digitsOf, rfl⟩, bytesOf_digitsOf b⟩

end Base58

end KernelWallet
