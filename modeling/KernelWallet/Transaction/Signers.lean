import KernelWallet.Key.Basic

/-! Signers are numbered by the position of their key. What is kept per signer is kept in strictly
ascending order of that number, so a set of signers and a map of signatures each have one form. -/

namespace KernelWallet

/-- Drops an element when its right neighbour has the same key. -/
def keepLast {α : Type} (key : α → UInt16) (a : α) : List α → List α
  | [] => [a]
  | b :: rest => if key a = key b then b :: rest else a :: b :: rest

/-- The elements in strictly ascending order of their keys; of those that share a key, the last. -/
def lastPerKey {α : Type} (key : α → UInt16) (l : List α) : List α :=
  (l.mergeSort fun a b => key a ≤ key b).foldr (keepLast key) []

theorem mem_of_mem_foldr_keepLast {α : Type} {key : α → UInt16} {x : α} {l : List α}
    (h : x ∈ l.foldr (keepLast key) []) : x ∈ l := by
  induction l with
  | nil => exact h
  | cons a l ih =>
    rw [List.foldr_cons] at h
    cases hl : l.foldr (keepLast key) [] with
    | nil =>
      rw [hl] at h
      exact List.mem_cons.mpr (.inl (List.mem_singleton.mp h))
    | cons b r =>
      rw [hl, keepLast] at h
      rw [hl] at ih
      split at h
      · exact List.mem_cons_of_mem _ (ih h)
      · rcases List.mem_cons.mp h with h | h
        · exact List.mem_cons.mpr (.inl h)
        · exact List.mem_cons_of_mem _ (ih h)

theorem pairwise_foldr_keepLast {α : Type} {key : α → UInt16} {l : List α}
    (h : l.Pairwise fun a b => key a ≤ key b) :
    (l.foldr (keepLast key) []).Pairwise fun a b => key a < key b := by
  induction l with
  | nil => exact List.Pairwise.nil
  | cons a l ih =>
    rw [List.pairwise_cons] at h
    have ih := ih h.2
    rw [List.foldr_cons]
    cases hl : l.foldr (keepLast key) [] with
    | nil => simp [keepLast]
    | cons b r =>
      rw [hl] at ih
      have hmem : ∀ x ∈ b :: r, key a ≤ key x := fun x hx =>
        h.1 x (mem_of_mem_foldr_keepLast (hl ▸ hx))
      rw [keepLast]
      split
      · exact ih
      · next hne =>
        have hlt : key a < key b := UInt16.lt_of_le_of_ne (hmem b (by simp)) hne
        refine List.pairwise_cons.mpr ⟨fun x hx => ?_, ih⟩
        rcases List.mem_cons.mp hx with rfl | hx
        · exact hlt
        · exact UInt16.lt_trans hlt ((List.pairwise_cons.mp ih).1 x hx)

theorem pairwise_lastPerKey {α : Type} (key : α → UInt16) (l : List α) :
    (lastPerKey key l).Pairwise fun a b => key a < key b := by
  refine pairwise_foldr_keepLast ?_
  have h := @List.pairwise_mergeSort α (fun a b => decide (key a ≤ key b))
    (fun _ _ _ hab hbc => decide_eq_true
      (UInt16.le_trans (of_decide_eq_true hab) (of_decide_eq_true hbc)))
    (fun a b => by simpa using UInt16.le_total (key a) (key b)) l
  exact h.imp of_decide_eq_true

structure SignerSet where
  toList : List UInt16
  ascending : toList.Pairwise (· < ·)
  deriving DecidableEq

namespace SignerSet

def empty : SignerSet := ⟨[], .nil⟩

/-- The set of the members of a list. -/
def ofList (l : List UInt16) : SignerSet :=
  ⟨lastPerKey id l, pairwise_lastPerKey id l⟩

/-- The number of bytes of the bitmap: one more than an eighth of the greatest signer. -/
def bitmapLength (s : SignerSet) : Nat :=
  match s.toList.getLast? with
  | none => 0
  | some m => m.toNat / 8 + 1

/-- The bitmap: bit `m % 8` of byte `m / 8` is set for each signer `m`. -/
def bitmap (s : SignerSet) : Bytes :=
  (s.toList.foldl (fun bytes m => bytes.modify (m.toNat / 8) (· ||| 1 <<< (m % 8).toUInt8))
    (Array.replicate s.bitmapLength 0)).toList

/-- The signers whose bits are set in a byte at position `i`. -/
def ofBitmapByte (b : UInt8) (i : Nat) : List UInt16 :=
  (List.range 8).filterMap fun bit =>
    if b.toNat.testBit bit then some (UInt16.ofNat i * 8 + UInt16.ofNat bit) else none

/-- The signers whose bits are set in a bitmap, ascending. -/
def listOfBitmap (bitmap : Bytes) : List UInt16 :=
  bitmap.zipIdx.flatMap fun (b, i) => ofBitmapByte b i

/-- Whether a list of the signers, two bytes each, takes less room than the bitmap. -/
def isSparse (s : SignerSet) : Bool :=
  s.toList.length * 2 < s.bitmapLength

end SignerSet

/-- The signatures of one input by signer. -/
structure SignerMap where
  entries : List (UInt16 × Signature)
  ascending : entries.Pairwise fun a b => a.1 < b.1
  deriving DecidableEq

namespace SignerMap

def empty : SignerMap := ⟨[], .nil⟩

instance : Inhabited SignerMap := ⟨empty⟩

def isEmpty (m : SignerMap) : Bool := m.entries.isEmpty

def signers (m : SignerMap) : List UInt16 := m.entries.map Prod.fst

def signatures (m : SignerMap) : List Signature := m.entries.map Prod.snd

/-- The map of a list of entries; of those for one signer the last counts. -/
def ofList (l : List (UInt16 × Signature)) : SignerMap :=
  ⟨lastPerKey Prod.fst l, pairwise_lastPerKey Prod.fst l⟩

/-- Puts an entry in its place among ascending entries, over one for the same signer. -/
def insertEntry (signer : UInt16) (sig : Signature) :
    List (UInt16 × Signature) → List (UInt16 × Signature)
  | [] => [(signer, sig)]
  | e :: rest =>
    if signer < e.1 then (signer, sig) :: e :: rest
    else if signer = e.1 then (signer, sig) :: rest
    else e :: insertEntry signer sig rest

theorem mem_insertEntry {signer : UInt16} {sig : Signature} {e : UInt16 × Signature}
    {l : List (UInt16 × Signature)} (h : e ∈ insertEntry signer sig l) :
    e = (signer, sig) ∨ e ∈ l := by
  induction l with
  | nil => simpa [insertEntry] using h
  | cons a l ih =>
    rw [insertEntry] at h
    split at h
    · simpa using h
    · split at h
      · rcases List.mem_cons.mp h with h | h
        · exact .inl h
        · exact .inr (List.mem_cons_of_mem _ h)
      · rcases List.mem_cons.mp h with h | h
        · exact .inr (List.mem_cons.mpr (.inl h))
        · exact (ih h).imp_right (List.mem_cons_of_mem _)

theorem pairwise_insertEntry {signer : UInt16} {sig : Signature} {l : List (UInt16 × Signature)}
    (h : l.Pairwise fun a b => a.1 < b.1) :
    (insertEntry signer sig l).Pairwise fun a b => a.1 < b.1 := by
  induction l with
  | nil => simp [insertEntry]
  | cons a l ih =>
    have ⟨ha, hl⟩ := List.pairwise_cons.mp h
    rw [insertEntry]
    split
    · next hlt =>
      refine List.pairwise_cons.mpr ⟨fun x hx => ?_, h⟩
      rcases List.mem_cons.mp hx with rfl | hx
      · exact hlt
      · exact UInt16.lt_trans hlt (ha x hx)
    · next hnlt =>
      split
      · next heq => exact List.pairwise_cons.mpr ⟨fun x hx => heq ▸ ha x hx, hl⟩
      · next hne =>
        refine List.pairwise_cons.mpr ⟨fun x hx => ?_, ih hl⟩
        rcases mem_insertEntry hx with rfl | hx
        · exact UInt16.lt_of_le_of_ne (UInt16.not_lt.mp hnlt) (Ne.symm hne)
        · exact ha x hx

def insert (m : SignerMap) (signer : UInt16) (sig : Signature) : SignerMap :=
  ⟨insertEntry signer sig m.entries, pairwise_insertEntry m.ascending⟩

end SignerMap

/-- One signature that stands for every signer of a set. Signers are positions in the list of all
keys spent, laid end to end. -/
structure AggregatedSignature where
  signature : Signature
  signers : SignerSet
  deriving DecidableEq

end KernelWallet
