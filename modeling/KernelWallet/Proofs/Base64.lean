import KernelWallet.Proofs.Bytes
import KernelWallet.Text.Base64
import Mathlib

/-! Base64 text reads back as the bytes it was written from, and no other text is read. Three bytes
are cut into four numbers of six bits, and what joins the numbers again gives the three bytes. -/

namespace KernelWallet.Base64

open Bytes

/-! ## Digits -/

theorem value?_digit_and_digit_ne {n : UInt8} (h : n.toNat < 64) :
    value? (digit n) = some n ∧ digit n ≠ '=' := by
  have hall : ∀ k < 64, value? (digit (UInt8.ofNat k)) = some (UInt8.ofNat k) ∧
      digit (UInt8.ofNat k) ≠ '=' := by decide +kernel
  simpa using hall n.toNat h

theorem value?_digit {n : UInt8} (h : n.toNat < 64) : value? (digit n) = some n :=
  (value?_digit_and_digit_ne h).1

theorem digit_ne {n : UInt8} (h : n.toNat < 64) : digit n ≠ '=' :=
  (value?_digit_and_digit_ne h).2

/-! ## Bits -/

variable (a b c : UInt8)

/-! The four numbers that a group of three bytes is cut into. -/

def first : UInt8 := a >>> 2

def second : UInt8 := (a &&& 3) <<< 4 ||| b >>> 4

def third : UInt8 := (b &&& 15) <<< 2 ||| c >>> 6

def fourth : UInt8 := c &&& 63

theorem toNat_first : (first a).toNat = a.toNat / 4 :=
  toNat_shiftRight (by decide)

theorem toNat_second : (second a b).toNat = 16 * (a.toNat % 4) + b.toNat / 16 := by
  have hb := b.toNat_lt
  have hlow : (a &&& 3).toNat = a.toNat % 4 := toNat_and_mask (n := 2) rfl
  have hhigh : (b >>> 4).toNat = b.toNat / 16 := toNat_shiftRight (by decide)
  exact toNat_join hlow hhigh (by decide) (by simp; omega) (by simp; omega)

theorem toNat_third : (third b c).toNat = 4 * (b.toNat % 16) + c.toNat / 64 := by
  have hc := c.toNat_lt
  have hlow : (b &&& 15).toNat = b.toNat % 16 := toNat_and_mask (n := 4) rfl
  have hhigh : (c >>> 6).toNat = c.toNat / 64 := toNat_shiftRight (by decide)
  exact toNat_join hlow hhigh (by decide) (by simp; omega) (by simp; omega)

theorem toNat_fourth : (fourth c).toNat = c.toNat % 64 :=
  toNat_and_mask (n := 6) rfl

theorem first_lt : (first a).toNat < 64 := by
  have ha := a.toNat_lt
  rw [toNat_first]
  omega

theorem second_lt : (second a b).toNat < 64 := by
  have hb := b.toNat_lt
  rw [toNat_second]
  omega

theorem third_lt : (third b c).toNat < 64 := by
  have hc := c.toNat_lt
  rw [toNat_third]
  omega

theorem fourth_lt : (fourth c).toNat < 64 := by
  rw [toNat_fourth]
  omega

theorem join_first_second : first a <<< 2 ||| second a b >>> 4 = a := by
  have ha := a.toNat_lt
  have hb := b.toNat_lt
  have hhigh : (second a b >>> 4).toNat = a.toNat % 4 := by
    rw [toNat_shiftRight (by decide), toNat_second]
    simp
    omega
  have hjoin := toNat_join (k := 2) (toNat_first a) hhigh (by decide) (by simp; omega)
    (by simp; omega)
  apply UInt8.toNat_inj.mp
  rw [hjoin]
  exact Nat.div_add_mod a.toNat 4

theorem join_second_third : (second a b &&& 15) <<< 4 ||| third b c >>> 2 = b := by
  have hb := b.toNat_lt
  have hc := c.toNat_lt
  have hlow : (second a b &&& 15).toNat = b.toNat / 16 := by
    rw [toNat_and_mask (n := 4) rfl, toNat_second]
    omega
  have hhigh : (third b c >>> 2).toNat = b.toNat % 16 := by
    rw [toNat_shiftRight (by decide), toNat_third]
    simp
    omega
  have hjoin := toNat_join (k := 4) hlow hhigh (by decide) (by simp; omega) (by simp; omega)
  apply UInt8.toNat_inj.mp
  rw [hjoin]
  exact Nat.div_add_mod b.toNat 16

theorem join_third_fourth : (third b c &&& 3) <<< 6 ||| fourth c = c := by
  have hc := c.toNat_lt
  have hlow : (third b c &&& 3).toNat = c.toNat / 64 := by
    rw [toNat_and_mask (n := 2) rfl, toNat_third]
    omega
  have hjoin := toNat_join (k := 6) hlow (toNat_fourth c) (by decide) (by simp; omega)
    (by simp; omega)
  apply UInt8.toNat_inj.mp
  rw [hjoin]
  exact Nat.div_add_mod c.toNat 64

/-! A group of two bytes or of one is cut as if zeros followed. -/

theorem third_zero : (b &&& 15) <<< 2 = third b 0 := by simp [third]

theorem second_zero : (a &&& 3) <<< 4 = second a 0 := by simp [second]

theorem unused_third : third b 0 &&& 3 = 0 := by
  apply UInt8.toNat_inj.mp
  rw [toNat_and_mask (n := 2) rfl, toNat_third]
  simp

theorem unused_second : second a 0 &&& 15 = 0 := by
  apply UInt8.toNat_inj.mp
  rw [toNat_and_mask (n := 4) rfl, toNat_second]
  simp

/-! ## Groups -/

theorem group_eq : group a b c =
    [digit (first a), digit (second a b), digit (third b c), digit (fourth c)] := rfl

theorem encodeChars_eq (done : List Char) (b : Bytes) :
    encodeChars done b = done.reverse ++ encodeChars [] b := by
  match b with
  | a :: b :: c :: rest =>
    rw [encodeChars, encodeChars_eq _ rest, encodeChars, encodeChars_eq (_ ++ []) rest]
    simp
  | [a, b] => simp [encodeChars]
  | [a] => simp [encodeChars]
  | [] => simp [encodeChars]

theorem encodeChars_group (rest : Bytes) :
    encodeChars [] (a :: b :: c :: rest) = group a b c ++ encodeChars [] rest := by
  rw [encodeChars, encodeChars_eq, List.append_nil, List.reverse_reverse]

theorem encodeChars_two :
    encodeChars [] [a, b] = [digit (first a), digit (second a b), digit (third b 0), '='] := by
  rw [encodeChars, third_zero]
  rfl

theorem encodeChars_one :
    encodeChars [] [a] = [digit (first a), digit (second a 0), '=', '='] := by
  rw [encodeChars, second_zero]
  rfl

theorem decodeChars_digits {p q r s : Char} {x y z w : UInt8} (hp : value? p = some x)
    (hq : value? q = some y) (hr : value? r = some z) (hs : value? s = some w) (done : Bytes)
    (rest : List Char) : decodeChars done (p :: q :: r :: s :: rest) =
      decodeChars (((z &&& 3) <<< 6 ||| w) :: ((y &&& 15) <<< 4 ||| z >>> 2) ::
        (x <<< 2 ||| y >>> 4) :: done) rest := by
  have hpadding : value? '=' = none := by decide
  -- The two earlier cases of the reading ask for padding, which is no digit.
  rw [decodeChars]
  · simp only [hp, hq, hr, hs]
  · rintro rfl _ _
    exact absurd (hpadding.symm.trans hr) (by simp)
  · rintro rfl _
    exact absurd (hpadding.symm.trans hs) (by simp)

theorem decodeChars_group (done : Bytes) (rest : List Char) :
    decodeChars done (group a b c ++ rest) = decodeChars (c :: b :: a :: done) rest := by
  rw [group_eq]
  simp only [List.cons_append, List.nil_append]
  rw [decodeChars_digits (value?_digit (first_lt a)) (value?_digit (second_lt a b))
    (value?_digit (third_lt b c)) (value?_digit (fourth_lt c)), join_first_second,
    join_second_third, join_third_fourth]

theorem decodeChars_two (done : Bytes) :
    decodeChars done (encodeChars [] [a, b]) = some (done.reverse ++ [a, b]) := by
  rw [encodeChars_two, decodeChars]
  · simp [value?_digit (first_lt a), value?_digit (second_lt a b), value?_digit (third_lt b 0),
      join_first_second, join_second_third, unused_third]
  · exact digit_ne (third_lt b 0)

theorem decodeChars_one (done : Bytes) :
    decodeChars done (encodeChars [] [a]) = some (done.reverse ++ [a]) := by
  rw [encodeChars_one, decodeChars]
  simp [value?_digit (first_lt a), value?_digit (second_lt a 0), join_first_second, unused_second]

theorem decodeChars_encodeChars (done b : Bytes) :
    decodeChars done (encodeChars [] b) = some (done.reverse ++ b) := by
  match b with
  | a :: b :: c :: rest =>
    rw [encodeChars_group, decodeChars_group, decodeChars_encodeChars]
    simp
  | [a, b] => exact decodeChars_two a b done
  | [a] => exact decodeChars_one a done
  | [] => simp [encodeChars, decodeChars]

theorem decode?_encode (b : Bytes) : decode? (encode b) = some b := by
  rw [decode?, encode, String.toList_ofList, decodeChars_encodeChars]
  rfl

/-! ## Canonical text -/

/-- The code point of a digit. -/
def code (n : Nat) : Nat :=
  if n < 26 then n + 65 else if n < 52 then n + 71 else if n < 62 then n - 4
  else if n = 62 then 43 else 47

theorem toNat_digit {n : UInt8} (h : n.toNat < 64) : (digit n).toNat = code n.toNat := by
  have hall : ∀ k < 64, (alphabet.getD k 'A').toNat = code k := by decide +kernel
  exact hall n.toNat h

theorem toNat_of_value? {c : Char} {n : UInt8} (h : value? c = some n) :
    n.toNat < 64 ∧ code n.toNat = c.toNat := by
  simp only [value?, char_le_iff, Char.reduceToNat, ← Char.toNat_inj] at h
  split at h
  · obtain rfl := Option.some.inj h
    rw [toNat_ofNat_of_lt (by omega), code]
    exact ⟨by omega, by split_ifs <;> omega⟩
  · split at h
    · obtain rfl := Option.some.inj h
      rw [toNat_ofNat_of_lt (by omega), code]
      exact ⟨by omega, by split_ifs <;> omega⟩
    · split at h
      · obtain rfl := Option.some.inj h
        rw [toNat_ofNat_of_lt (by omega), code]
        exact ⟨by omega, by split_ifs <;> omega⟩
      · split at h
        · next hc =>
          obtain rfl := Option.some.inj h
          exact ⟨by decide, hc.symm⟩
        · split at h
          · next hc =>
            obtain rfl := Option.some.inj h
            exact ⟨by decide, hc.symm⟩
          · exact absurd h (by simp)

theorem value?_eq_some_iff {c : Char} {n : UInt8} :
    value? c = some n ↔ n.toNat < 64 ∧ digit n = c := by
  constructor
  · intro h
    obtain ⟨hn, hcode⟩ := toNat_of_value? h
    exact ⟨hn, Char.toNat_inj.mp ((toNat_digit hn).trans hcode)⟩
  · rintro ⟨hn, rfl⟩
    exact value?_digit hn

section

variable {p q r s : UInt8} (hp : p.toNat < 64) (hq : q.toNat < 64) (hr : r.toNat < 64)
  (hs : s.toNat < 64)

include hq in
theorem toNat_join_first (hp : p.toNat < 64) :
    (p <<< 2 ||| q >>> 4).toNat = 4 * p.toNat + q.toNat / 16 := by
  have hhigh : (q >>> 4).toNat = q.toNat / 16 := toNat_shiftRight (by decide)
  exact toNat_join (k := 2) rfl hhigh (by decide) (by simp; omega) (by simp; omega)

include hr in
theorem toNat_join_second (q : UInt8) :
    ((q &&& 15) <<< 4 ||| r >>> 2).toNat = 16 * (q.toNat % 16) + r.toNat / 4 := by
  have hlow : (q &&& 15).toNat = q.toNat % 16 := toNat_and_mask (n := 4) rfl
  have hhigh : (r >>> 2).toNat = r.toNat / 4 := toNat_shiftRight (by decide)
  exact toNat_join (k := 4) hlow hhigh (by decide) (by simp; omega) (by simp; omega)

include hs in
theorem toNat_join_third (r : UInt8) :
    ((r &&& 3) <<< 6 ||| s).toNat = 64 * (r.toNat % 4) + s.toNat := by
  have hlow : (r &&& 3).toNat = r.toNat % 4 := toNat_and_mask (n := 2) rfl
  exact toNat_join (k := 6) hlow rfl (by decide) (by simp; omega) (by simp; omega)

include hp hq in
theorem first_join : first (p <<< 2 ||| q >>> 4) = p := by
  apply UInt8.toNat_inj.mp
  rw [toNat_first, toNat_join_first hq hp]
  omega

include hp hq hr in
theorem second_join : second (p <<< 2 ||| q >>> 4) ((q &&& 15) <<< 4 ||| r >>> 2) = q := by
  apply UInt8.toNat_inj.mp
  rw [toNat_second, toNat_join_first hq hp, toNat_join_second hr]
  omega

include hr hs in
theorem third_join (q : UInt8) :
    third ((q &&& 15) <<< 4 ||| r >>> 2) ((r &&& 3) <<< 6 ||| s) = r := by
  apply UInt8.toNat_inj.mp
  rw [toNat_third, toNat_join_second hr, toNat_join_third hs]
  omega

include hs in
theorem fourth_join (r : UInt8) : fourth ((r &&& 3) <<< 6 ||| s) = s := by
  apply UInt8.toNat_inj.mp
  rw [toNat_fourth, toNat_join_third hs]
  omega

/-! A group that is not full is joined as if the bits it leaves unused were those of a zero. -/

include hp hq in
theorem second_join_zero (hunused : q &&& 15 = 0) : second (p <<< 2 ||| q >>> 4) 0 = q := by
  have hlow : (q &&& 15).toNat = q.toNat % 16 := toNat_and_mask (n := 4) rfl
  rw [hunused, UInt8.toNat_zero] at hlow
  apply UInt8.toNat_inj.mp
  rw [toNat_second, toNat_join_first hq hp]
  simp only [UInt8.toNat_zero]
  omega

include hr in
theorem third_join_zero (q : UInt8) (hunused : r &&& 3 = 0) :
    third ((q &&& 15) <<< 4 ||| r >>> 2) 0 = r := by
  have hlow : (r &&& 3).toNat = r.toNat % 4 := toNat_and_mask (n := 2) rfl
  rw [hunused, UInt8.toNat_zero] at hlow
  apply UInt8.toNat_inj.mp
  rw [toNat_third, toNat_join_second hr]
  simp only [UInt8.toNat_zero]
  omega

end

theorem exists_of_decodeChars {done b : Bytes} {text : List Char}
    (h : decodeChars done text = some b) :
    ∃ rest, b = done.reverse ++ rest ∧ encodeChars [] rest = text := by
  fun_induction decodeChars done text with
  | case1 done =>
    obtain rfl := Option.some.inj h
    exact ⟨[], (List.append_nil _).symm, by simp [encodeChars]⟩
  | case2 done p q x y hy hx hunused =>
    obtain rfl := Option.some.inj h
    obtain ⟨hp, rfl⟩ := value?_eq_some_iff.mp hx
    obtain ⟨hq, rfl⟩ := value?_eq_some_iff.mp hy
    refine ⟨[x <<< 2 ||| y >>> 4], List.reverse_cons, ?_⟩
    rw [encodeChars_one, first_join hp hq, second_join_zero hp hq hunused]
  | case5 done p q r hne x y z hz hy hx hunused =>
    obtain rfl := Option.some.inj h
    obtain ⟨hp, rfl⟩ := value?_eq_some_iff.mp hx
    obtain ⟨hq, rfl⟩ := value?_eq_some_iff.mp hy
    obtain ⟨hr, rfl⟩ := value?_eq_some_iff.mp hz
    refine ⟨[x <<< 2 ||| y >>> 4, (y &&& 15) <<< 4 ||| z >>> 2], by simp, ?_⟩
    rw [encodeChars_two, first_join hp hq, second_join hp hq hr, third_join_zero hr y hunused]
  | case8 done p q r s text _ _ x y z w hw hz hy hx ih =>
    obtain ⟨rest, rfl, htext⟩ := ih h
    obtain ⟨hp, rfl⟩ := value?_eq_some_iff.mp hx
    obtain ⟨hq, rfl⟩ := value?_eq_some_iff.mp hy
    obtain ⟨hr, rfl⟩ := value?_eq_some_iff.mp hz
    obtain ⟨hs, rfl⟩ := value?_eq_some_iff.mp hw
    refine ⟨(x <<< 2 ||| y >>> 4) :: ((y &&& 15) <<< 4 ||| z >>> 2) :: ((z &&& 3) <<< 6 ||| w) ::
      rest, by simp, ?_⟩
    rw [encodeChars_group, group_eq, first_join hp hq, second_join hp hq hr, third_join hr hs,
      fourth_join hs, htext]
    rfl
  | _ => exact absurd h (by simp)

/-- A text is read as the one byte string that it is the text of: padding is as it is written, and
no bits are lost. -/
theorem decode?_eq_some_iff {s : String} {b : Bytes} : decode? s = some b ↔ encode b = s := by
  constructor
  · intro h
    obtain ⟨rest, rfl, htext⟩ := exists_of_decodeChars h
    rw [encode, ← String.ofList_toList (s := s), ← htext]
  · rintro rfl
    exact decode?_encode b

theorem decode?_eq_none_iff {s : String} : decode? s = none ↔ ∀ b, encode b ≠ s := by
  simp only [Option.eq_none_iff_forall_ne_some, ne_eq, decode?_eq_some_iff]

/-! ## Lengths -/

theorem length_encodeChars (b : Bytes) : (encodeChars [] b).length = 4 * ((b.length + 2) / 3) := by
  match b with
  | a :: b :: c :: rest =>
    have hrest := length_encodeChars rest
    simp only [encodeChars_group, group_eq, List.length_append, List.length_cons, List.length_nil,
      hrest]
    omega
  | [a, b] => simp [encodeChars_two]
  | [a] => simp [encodeChars_one]
  | [] => rfl

theorem length_encode (b : Bytes) : (encode b).length = 4 * ((b.length + 2) / 3) := by
  rw [encode, String.length_ofList, length_encodeChars]

/-- Digits alone, in groups of four, stand for three bytes each. -/
theorem exists_decodeChars {groups : Nat} {text : List Char} (hlen : text.length = 4 * groups)
    (hvalues : ∀ c ∈ text, (value? c).isSome) (done : Bytes) :
    ∃ b, decodeChars done text = some b ∧ b.length = done.length + 3 * groups := by
  induction groups generalizing text done with
  | zero =>
    obtain rfl := List.length_eq_zero_iff.mp hlen
    exact ⟨done.reverse, by rw [decodeChars], by simp⟩
  | succ groups ih =>
    match text, hlen, hvalues with
    | p :: q :: r :: s :: text, hlen, hvalues =>
      obtain ⟨⟨x, hp⟩, ⟨y, hq⟩, ⟨z, hr⟩, ⟨w, hs⟩, hvalues⟩ :=
        by simpa only [List.forall_mem_cons, Option.isSome_iff_exists] using hvalues
      have hlen : text.length = 4 * groups := by
        simp only [List.length_cons] at hlen
        omega
      obtain ⟨b, hb, hlength⟩ := ih hlen (fun c hc => Option.isSome_iff_exists.mpr (hvalues c hc))
        (((z &&& 3) <<< 6 ||| w) :: ((y &&& 15) <<< 4 ||| z >>> 2) :: (x <<< 2 ||| y >>> 4) :: done)
      refine ⟨b, (decodeChars_digits hp hq hr hs done text).trans hb, ?_⟩
      simp only [List.length_cons] at hlength
      omega

end KernelWallet.Base64
