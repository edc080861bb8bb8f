import KernelWallet.Proofs.Signers

/-! The signatures of an input looked up by signer, and the map of a list of signatures, in which
the signer of a signature is its position. Signers are 16-bit numbers, so positions repeat in it. -/

namespace KernelWallet.SignerMap

def get? (m : SignerMap) (signer : UInt16) : Option Signature :=
  m.entries.lookup signer

theorem lookup_cons (e : UInt16 × Signature) (l : List (UInt16 × Signature)) (k : UInt16) :
    (e :: l).lookup k = if k = e.1 then some e.2 else l.lookup k := by
  rw [List.lookup_cons]
  by_cases hk : k = e.1
  · rw [if_pos hk, hk, beq_self_eq_true]
  · rw [if_neg hk, beq_eq_false_iff_ne.mpr hk]

theorem lookup_insertEntry (signer : UInt16) (sig : Signature) (l : List (UInt16 × Signature))
    (k : UInt16) :
    (insertEntry signer sig l).lookup k = if k = signer then some sig else l.lookup k := by
  induction l with
  | nil => exact lookup_cons (signer, sig) [] k
  | cons e l ih =>
    rw [insertEntry]
    by_cases hlt : signer < e.1
    · rw [if_pos hlt, lookup_cons]
    · rw [if_neg hlt]
      by_cases he : signer = e.1
      · rw [if_pos he, lookup_cons, lookup_cons, ← he]
        by_cases hk : k = signer <;> simp [hk]
      · rw [if_neg he, lookup_cons, lookup_cons, ih]
        by_cases hk : k = signer <;> simp [hk, he]

theorem get?_insert (m : SignerMap) (signer : UInt16) (sig : Signature) (k : UInt16) :
    (m.insert signer sig).get? k = if k = signer then some sig else m.get? k :=
  lookup_insertEntry signer sig m.entries k

theorem lookup_eq_some_iff_mem {l : List (UInt16 × Signature)}
    (h : l.Pairwise fun a b => a.1 < b.1) {k : UInt16} {sig : Signature} :
    l.lookup k = some sig ↔ (k, sig) ∈ l := by
  induction l with
  | nil => simp
  | cons e l ih =>
    obtain ⟨he, hl⟩ := List.pairwise_cons.mp h
    rw [lookup_cons, List.mem_cons]
    by_cases hk : k = e.1
    · have hnot : (k, sig) ∉ l := by
        intro hmem
        have hlt := he (k, sig) hmem
        rw [← hk] at hlt
        exact UInt16.lt_irrefl k hlt
      rw [if_pos hk, Option.some.injEq, or_iff_left hnot, Prod.ext_iff]
      exact ⟨fun h => ⟨hk, h.symm⟩, fun h => h.2.symm⟩
    · have hne : (k, sig) ≠ e := fun h => hk (congrArg Prod.fst h)
      rw [if_neg hk, ih hl, or_iff_right hne]

/-- Signers do not repeat, so an entry is found under its signer. -/
theorem get?_eq_some_iff {m : SignerMap} {k : UInt16} {sig : Signature} :
    m.get? k = some sig ↔ (k, sig) ∈ m.entries :=
  lookup_eq_some_iff_mem m.ascending

/-- Of the entries for one signer the last is found. -/
theorem get?_ofList {l₁ l₂ : List (UInt16 × Signature)} {k : UInt16} {sig : Signature}
    (hlast : ∀ e ∈ l₂, e.1 ≠ k) : (ofList (l₁ ++ (k, sig) :: l₂)).get? k = some sig :=
  get?_eq_some_iff.mpr (mem_lastPerKey hlast)

theorem ext_get? {m m' : SignerMap} (h : ∀ k, m.get? k = m'.get? k) : m = m' := by
  have hnodup : ∀ m : SignerMap, m.entries.Nodup := fun m =>
    m.ascending.imp fun hlt heq => UInt16.ne_of_lt hlt (congrArg Prod.fst heq)
  have hmem : ∀ e, e ∈ m.entries ↔ e ∈ m'.entries := by
    rintro ⟨k, sig⟩
    rw [← get?_eq_some_iff, h, get?_eq_some_iff]
  have hperm := (List.perm_ext_iff_of_nodup (hnodup m) (hnodup m')).mpr hmem
  have heq : m.entries = m'.entries := by
    refine hperm.eq_of_pairwise (fun a b _ _ hab hba => ?_) m.ascending m'.ascending
    exact absurd (UInt16.lt_trans hab hba) (UInt16.lt_irrefl _)
  cases m
  cases m'
  exact (mk.injEq ..).mpr heq

/-- The map of one signature. -/
def single (signer : UInt16) (sig : Signature) : SignerMap :=
  empty.insert signer sig

theorem get?_single (signer : UInt16) (sig : Signature) (k : UInt16) :
    (single signer sig).get? k = if k = signer then some sig else none :=
  get?_insert empty signer sig k

/-! ## Signers that are positions -/

/-- The map of signatures whose signers are their positions. -/
def ofSignatures (l : List Signature) : SignerMap :=
  ofList (l.zipIdx.map fun e => (UInt16.ofNat e.2, e.1))

theorem mem_signers_ofSignatures {l : List Signature} {k : UInt16} :
    k ∈ (ofSignatures l).signers ↔ ∃ n < l.length, UInt16.ofNat n = k := by
  rw [signers, ofSignatures, ofList, mem_map_lastPerKey, List.map_map, List.mem_map]
  simp only [Function.comp_apply, Prod.exists, List.mem_zipIdx_iff_getElem?]
  constructor
  · rintro ⟨s, n, hn, hk⟩
    exact ⟨n, (List.getElem?_eq_some_iff.mp hn).1, hk⟩
  · rintro ⟨n, hn, hk⟩
    exact ⟨l[n], n, List.getElem?_eq_getElem hn, hk⟩

theorem pairwise_map_ofNat_range {n : Nat} (h : n ≤ 2 ^ 16) :
    ((List.range n).map UInt16.ofNat).Pairwise (· < ·) := by
  rw [List.pairwise_map]
  refine List.pairwise_lt_range.imp_of_mem fun {x y} hx hy hxy => ?_
  have hx' := List.mem_range.mp hx
  have hy' := List.mem_range.mp hy
  rw [UInt16.lt_iff_toNat_lt, UInt16.toNat_ofNat', UInt16.toNat_ofNat',
    Nat.mod_eq_of_lt (by omega), Nat.mod_eq_of_lt (by omega)]
  exact hxy

theorem signers_ofSignatures (l : List Signature) :
    (ofSignatures l).signers = (List.range (min l.length (2 ^ 16))).map UInt16.ofNat := by
  have hascending : (ofSignatures l).signers.Pairwise (· < ·) :=
    List.pairwise_map.mpr (ofSignatures l).ascending
  refine hascending.eq_of_mem_iff (pairwise_map_ofNat_range (Nat.min_le_right _ _)) fun k => ?_
  rw [mem_signers_ofSignatures]
  simp only [List.mem_map, List.mem_range]
  constructor
  · rintro ⟨n, hn, rfl⟩
    have hle : n % 2 ^ 16 ≤ n := Nat.mod_le n (2 ^ 16)
    have hlt : n % 2 ^ 16 < 2 ^ 16 := Nat.mod_lt n (by decide)
    refine ⟨n % 2 ^ 16, by omega, ?_⟩
    rw [← UInt16.toNat_inj, UInt16.toNat_ofNat', UInt16.toNat_ofNat', Nat.mod_mod]
  · rintro ⟨n, hn, rfl⟩
    exact ⟨n, by omega, rfl⟩

theorem get?_ofSignatures {l : List Signature} {n : Nat} {s : Signature} (hs : l[n]? = some s)
    (hlast : l.length ≤ n + 2 ^ 16) : (ofSignatures l).get? (UInt16.ofNat n) = some s := by
  obtain ⟨hn, rfl⟩ := List.getElem?_eq_some_iff.mp hs
  have hsplit : l = l.take n ++ l[n] :: l.drop (n + 1) := by
    rw [List.getElem_cons_drop, List.take_append_drop]
  have htake : (l.take n).length = n := List.length_take_of_le (Nat.le_of_lt hn)
  have hentries : l.zipIdx.map (fun e => (UInt16.ofNat e.2, e.1)) =
      (l.take n).zipIdx.map (fun e => (UInt16.ofNat e.2, e.1)) ++ (UInt16.ofNat n, l[n]) ::
        ((l.drop (n + 1)).zipIdx (n + 1)).map fun e => (UInt16.ofNat e.2, e.1) := by
    conv_lhs => rw [hsplit]
    simp only [List.zipIdx_append, List.zipIdx_cons, List.map_append, List.map_cons, htake,
      Nat.zero_add]
  rw [ofSignatures, hentries]
  refine get?_ofList fun e he => ?_
  obtain ⟨⟨t, i⟩, hi, rfl⟩ := List.mem_map.mp he
  obtain ⟨hle, hlt, _⟩ := List.mem_zipIdx hi
  rw [List.length_drop] at hlt
  intro heq
  rw [← UInt16.toNat_inj, UInt16.toNat_ofNat', UInt16.toNat_ofNat'] at heq
  -- the positions behind `n` are less than `2 ^ 16` away from it
  omega

end KernelWallet.SignerMap
