import KernelWallet.Proofs.Amount
import KernelWallet.Proofs.Json
import KernelWallet.Transaction.Json

/-! Amounts as decimal text. What is read is digits around a point, and the amount is the number
that they stand for, counted in units: the three places where it may be found to be out of range are
one condition on that number. The text of an amount is among those that are read as it. -/

namespace KernelWallet.Amount

/-- The text is digits, or digits around a point of which one side may be empty, with at most eight
of them behind the point. -/
structure IsDecimal (s : String) (whole fraction : List Char) : Prop where
  text : s.toList = whole ∧ fraction = [] ∨ s.toList = whole ++ '.' :: fraction
  whole_isDigit : ∀ c ∈ whole, c.isDigit
  fraction_isDigit : ∀ c ∈ fraction, c.isDigit
  not_empty : ¬ (whole = [] ∧ fraction = [])
  length_le : fraction.length ≤ 8

/-- The number that the digits around a point stand for. -/
def decimalValue (whole fraction : List Char) : ℚ :=
  Nat.ofDigitChars 10 whole 0 + Nat.ofDigitChars 10 fraction 0 / 10 ^ fraction.length

/-! ## Digits -/

theorem ofDigits_eq (ds : List Char) : ofDigits ds = Nat.ofDigitChars 10 ds 0 :=
  (Nat.ofDigitChars_eq_foldl (b := 10) (l := ds)).symm

theorem ofDigits_concat (ds : List Char) (c : Char) :
    ofDigits (ds ++ [c]) = 10 * ofDigits ds + (c.toNat - 48) := by
  simp [ofDigits]

theorem ofFraction_concat (ds : List Char) (c : Char) :
    ofFraction (ds ++ [c]) =
      ofFraction ds + (c.toNat - 48) * 10 ^ (precision - 1 - ds.length) := by
  simp [ofFraction, List.zipIdx_append]

theorem ofFraction_eq {ds : List Char} (h : ds.length ≤ precision) :
    ofFraction ds = ofDigits ds * 10 ^ (precision - ds.length) := by
  induction ds using List.reverseRecOn with
  | nil => rfl
  | append_singleton ds c ih =>
    rw [List.length_append, List.length_singleton] at h
    -- Each digit counts ten times what it would count one place further on.
    have hpow : 10 ^ (precision - ds.length) = 10 * 10 ^ (precision - 1 - ds.length) := by
      rw [← Nat.pow_succ']
      congr 1
      omega
    have hplace : precision - (ds ++ [c]).length = precision - 1 - ds.length := by
      rw [List.length_append, List.length_singleton]
      omega
    rw [ofFraction_concat, ofDigits_concat, ih (by omega), hpow, hplace]
    ring

theorem decimalValue_mul {whole fraction : List Char} (h : fraction.length ≤ precision) :
    decimalValue whole fraction * 10 ^ 8 =
      ((ofDigits whole * unitsPerWhole + ofFraction fraction : ℕ) : ℚ) := by
  have hpow : (10 : ℚ) ^ 8 = 10 ^ (precision - fraction.length) * 10 ^ fraction.length := by
    rw [← pow_add, Nat.sub_add_cancel h]
    rfl
  have hunits : (unitsPerWhole : ℚ) = 10 ^ 8 := by norm_num [unitsPerWhole]
  rw [ofFraction_eq h, ofDigits_eq, ofDigits_eq]
  push_cast
  rw [hunits, decimalValue, add_mul]
  congr 1
  rw [hpow]
  field_simp

/-! ## The range -/

/-- Once a number of tokens is out of range, so is what is made of it. -/
theorem ofUnits_bind_mul (n : Nat) {k : Nat} (hk : 0 < k) :
    (ofUnits n >>= fun a => ofUnits (a.units * k)) = ofUnits (n * k) := by
  by_cases h : n < 2 ^ 256
  · rw [ofUnits_of_lt h]
    rfl
  · have hle := Nat.not_lt.mp h
    rw [ofUnits_of_le hle, ofUnits_of_le (hle.trans (Nat.le_mul_of_pos_right n hk))]
    rfl

theorem ofUnits_bind_mul_add (n k rest : Nat) (hk : 0 < k) :
    (do
      let tokens ← ofUnits n
      let wholeUnits ← ofUnits (tokens.units * k)
      ofUnits (wholeUnits.units + rest)) = ofUnits (n * k + rest) := by
  rw [← bind_assoc, ofUnits_bind_mul n hk, ofUnits_bind_ofUnits]

/-! ## The parts of a text -/

def wholePart (s : String) : List Char :=
  s.toList.takeWhile (· != '.')

def fractionPart (s : String) : List Char :=
  (s.toList.dropWhile (· != '.')).drop 1

theorem toList_eq (s : String) : s.toList = wholePart s ∧ fractionPart s = [] ∨
    s.toList = wholePart s ++ '.' :: fractionPart s := by
  have hsplit : wholePart s ++ s.toList.dropWhile (· != '.') = s.toList :=
    List.takeWhile_append_dropWhile
  cases hrest : s.toList.dropWhile (· != '.') with
  | nil =>
    rw [hrest, List.append_nil] at hsplit
    exact .inl ⟨hsplit.symm, by rw [fractionPart, hrest]; rfl⟩
  | cons c rest =>
    have hpoint : c = '.' := by
      have hhead := List.head?_dropWhile_not (· != '.') s.toList
      rw [hrest] at hhead
      simpa using hhead
    have hfraction : fractionPart s = rest := by rw [fractionPart, hrest]; rfl
    rw [hrest, hpoint] at hsplit
    exact .inr (by rw [hfraction, hsplit])

variable {s : String} {whole fraction : List Char} {a b : Amount}

theorem IsDecimal.parts (h : IsDecimal s whole fraction) :
    wholePart s = whole ∧ fractionPart s = fraction := by
  -- No digit is a point, so the first point is where the text was put together.
  have hpoint : ∀ c ∈ whole, (c != '.') = true := by
    intro c hc
    rw [bne_iff_ne]
    rintro rfl
    exact absurd (h.whole_isDigit '.' hc) (by decide)
  rw [wholePart, fractionPart]
  rcases h.text with ⟨htext, rfl⟩ | htext
  · rw [htext, List.takeWhile_eq_self_iff.mpr hpoint, List.dropWhile_eq_nil_iff.mpr hpoint]
    exact ⟨rfl, rfl⟩
  · rw [htext, List.takeWhile_append_of_pos hpoint, List.dropWhile_append_of_pos hpoint]
    simp

theorem isDecimal_parts_iff : IsDecimal s (wholePart s) (fractionPart s) ↔
    ¬ ((wholePart s).isEmpty && (fractionPart s).isEmpty) = true ∧
      ¬ (!((wholePart s).all Char.isDigit && (fractionPart s).all Char.isDigit)) = true ∧
      ¬ (fractionPart s).length > precision := by
  simp only [Bool.and_eq_true, List.isEmpty_iff, Bool.not_eq_true', Bool.not_eq_false,
    List.all_eq_true, not_lt]
  constructor
  · exact fun h => ⟨h.not_empty, ⟨h.whole_isDigit, h.fraction_isDigit⟩, h.length_le⟩
  · rintro ⟨hne, ⟨hwhole, hfraction⟩, hlen⟩
    exact ⟨toList_eq s, hwhole, hfraction, hne, hlen⟩

theorem ofText_eq_ok_iff_parts : ofText s = .ok a ↔ IsDecimal s (wholePart s) (fractionPart s) ∧
    a.units = ofDigits (wholePart s) * unitsPerWhole + ofFraction (fractionPart s) := by
  rw [isDecimal_parts_iff, ofText]
  simp only [guard_bind_eq_ok_iff, ofUnits_bind_mul_add _ unitsPerWhole _ (by decide),
    ofUnits_eq_ok_iff, and_assoc]
  rfl

theorem IsDecimal.ofText_eq_ok_iff_units (h : IsDecimal s whole fraction) :
    ofText s = .ok a ↔ a.units = ofDigits whole * unitsPerWhole + ofFraction fraction := by
  obtain ⟨rfl, rfl⟩ := h.parts
  rw [ofText_eq_ok_iff_parts, and_iff_right h]

theorem ofText_eq_ok_iff_isDecimal : ofText s = .ok a ↔
    ∃ whole fraction, IsDecimal s whole fraction ∧
      (a.units : ℚ) = decimalValue whole fraction * 10 ^ 8 := by
  constructor
  · intro ha
    obtain ⟨h, hunits⟩ := ofText_eq_ok_iff_parts.mp ha
    exact ⟨_, _, h, by rw [decimalValue_mul h.length_le, hunits]⟩
  · rintro ⟨whole, fraction, h, hunits⟩
    rw [decimalValue_mul h.length_le] at hunits
    exact h.ofText_eq_ok_iff_units.mpr (Nat.cast_injective hunits)

theorem exists_ofText_iff : (∃ a, ofText s = .ok a) ↔
    ∃ whole fraction, IsDecimal s whole fraction ∧
      decimalValue whole fraction * 10 ^ 8 < 2 ^ 256 := by
  constructor
  · rintro ⟨a, ha⟩
    obtain ⟨whole, fraction, h, hunits⟩ := ofText_eq_ok_iff_isDecimal.mp ha
    refine ⟨whole, fraction, h, ?_⟩
    rw [← hunits]
    exact_mod_cast a.units_lt
  · rintro ⟨whole, fraction, h, hlt⟩
    rw [decimalValue_mul h.length_le] at hlt
    exact ⟨⟨_, by exact_mod_cast hlt⟩, h.ofText_eq_ok_iff_units.mpr rfl⟩

theorem ofJson?_str_eq_some_iff : ofJson? (.str s) = some a ↔ ofText s = .ok a :=
  Json.textOf?_str_eq_some_iff

theorem ofPositiveText_eq_ok_iff : ofPositiveText s = .ok a ↔ ofText s = .ok a ∧ a.units ≠ 0 := by
  rw [ofPositiveText, bind_eq_ok_iff]
  simp only [guard_bind_eq_ok_iff, isZero_iff]
  constructor
  · rintro ⟨a', ha, hne, h⟩
    obtain rfl := Except.ok.inj h
    exact ⟨ha, hne⟩
  · rintro ⟨ha, hne⟩
    exact ⟨a, ha, hne, rfl⟩

/-! ## Written text -/

/-- The places behind the point, of which there are always eight. -/
def places (n : Nat) : List Char :=
  List.replicate (precision - (Nat.toDigits 10 n).length) '0' ++ Nat.toDigits 10 n

theorem length_places {n : Nat} (h : n < unitsPerWhole) : (places n).length = precision := by
  have hlen : (Nat.toDigits 10 n).length ≤ precision :=
    (Nat.length_toDigits_le_iff (by decide) (by decide)).mpr h
  rw [places, List.length_append, List.length_replicate]
  omega

theorem ofFraction_places {n : Nat} (h : n < unitsPerWhole) : ofFraction (places n) = n := by
  have hlen := length_places h
  rw [ofFraction_eq hlen.le, hlen, Nat.sub_self, Nat.pow_zero, Nat.mul_one, ofDigits_eq, places,
    Nat.ofDigitChars_append, Nat.ofDigitChars_replicate_zero, Nat.mul_zero,
    Nat.ofDigitChars_ten_toDigits]

theorem isDigit_of_mem_places {n : Nat} {c : Char} (h : c ∈ places n) : c.isDigit := by
  rcases List.mem_append.mp h with h | h
  · rw [List.eq_of_mem_replicate h]
    rfl
  · exact Nat.isDigit_of_mem_toDigits (by decide) (by decide) h

theorem isDecimal_toText (a : Amount) : IsDecimal a.toText
    (Nat.toDigits 10 (a.units / unitsPerWhole)) (places (a.units % unitsPerWhole)) where
  text := .inr (by simp [toText, places])
  whole_isDigit _ := Nat.isDigit_of_mem_toDigits (by decide) (by decide)
  fraction_isDigit _ := isDigit_of_mem_places
  not_empty h := Nat.toDigits_ne_nil h.1
  length_le := (length_places (Nat.mod_lt _ (by decide))).le

theorem ofText_toText (a : Amount) : ofText a.toText = .ok a := by
  have hlt : a.units % unitsPerWhole < unitsPerWhole := Nat.mod_lt _ (by decide)
  rw [(isDecimal_toText a).ofText_eq_ok_iff_units, ofFraction_places hlt, ofDigits_eq,
    Nat.ofDigitChars_ten_toDigits, Nat.div_add_mod']

theorem toText_inj : a.toText = b.toText ↔ a = b :=
  write_inj (fun _ _ => Except.ok.inj) ofText_toText

/-- What is read as an amount is a decimal number whose units are in range, and the amount is that
number; in places that ask for a positive amount zero alone is refused besides. What is written is
read as the amount that was written, so no two amounts share a text. -/
theorem exists_ofJson?_iff_isDecimal :
    (∀ s, (∃ a, ofJson? (.str s) = some a) ↔ ∃ whole fraction, IsDecimal s whole fraction ∧
      decimalValue whole fraction * 10 ^ 8 < 2 ^ 256) ∧
    (∀ s a, ofJson? (.str s) = some a ↔ ∃ whole fraction, IsDecimal s whole fraction ∧
      (a.units : ℚ) = decimalValue whole fraction * 10 ^ 8) ∧
    (∀ s a, ofPositiveText s = .ok a ↔ ofJson? (.str s) = some a ∧ a.units ≠ 0) ∧
    ∀ a b : Amount, ofJson? (.str a.toText) = some a ∧
      (ofPositiveText a.toText = .ok a ↔ a.units ≠ 0) ∧ (a.toText = b.toText ↔ a = b) := by
  refine ⟨fun s => ?_, fun s a => ?_, fun s a => ?_, fun a b => ⟨?_, ?_, toText_inj⟩⟩
  · simp only [ofJson?_str_eq_some_iff, exists_ofText_iff]
  · rw [ofJson?_str_eq_some_iff, ofText_eq_ok_iff_isDecimal]
  · rw [ofPositiveText_eq_ok_iff, ofJson?_str_eq_some_iff]
  · exact ofJson?_str_eq_some_iff.mpr (ofText_toText a)
  · rw [ofPositiveText_eq_ok_iff, and_iff_right (ofText_toText a)]

end KernelWallet.Amount
