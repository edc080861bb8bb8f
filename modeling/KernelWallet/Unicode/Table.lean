import KernelWallet.Text.Hex

/-! Tables over the code points of Unicode 17. A table is written as text: an entry is a few
hexadecimal numbers with points between them, and blanks or line breaks stand between entries. -/

namespace KernelWallet.Unicode

/-- Entries that have been read, the last first, and the numbers of the entry in progress, the last
first. -/
structure EntryReader where
  entries : List (List Nat) := []
  numbers : List Nat := []
  number : Option Nat := none

namespace EntryReader

/-- Ends the entry in progress, if there is one. -/
def close (r : EntryReader) : EntryReader :=
  match r.number with
  | some n => { entries := (n :: r.numbers).reverse :: r.entries }
  | none => r

def step (r : EntryReader) (c : Char) : EntryReader :=
  match Hex.value? c with
  | some digit => { r with number := some (16 * r.number.getD 0 + digit.toNat) }
  | none =>
    if c == '.' then { r with numbers := r.number.getD 0 :: r.numbers, number := none }
    else r.close

end EntryReader

/-- The entries of a text. -/
def entries (text : String) : List (List Nat) :=
  (text.foldl EntryReader.step {}).close.entries.reverse

/-- What a table says of the code points from `first` to `last`. -/
structure Run (α : Type) where
  first : Nat
  last : Nat
  value : α

/-- The runs of a text whose entries start with both bounds, or with one that is both. What follows
gives the value. -/
def runs {α : Type} (value : List Nat → α) (text : String) : List (Run α) :=
  (entries text).filterMap fun
    | [code] => some ⟨code, code, value []⟩
    | first :: last :: rest => some ⟨first, last, value rest⟩
    | [] => none

/-- The runs of a text whose entries are about one code point each. -/
def points {α : Type} (value : List Nat → α) (text : String) : List (Run α) :=
  (entries text).filterMap fun
    | code :: rest => some ⟨code, code, value rest⟩
    | [] => none

/-- Runs in ascending order that do not overlap. -/
structure Table (α : Type) where
  runs : Array (Run α)

namespace Table

def ofRuns {α : Type} (runs : List (Run α)) : Table α :=
  ⟨(runs.mergeSort fun a b => a.first ≤ b.first).toArray⟩

/-- The run that holds a code point, among `count` runs from `start` on. -/
def search {α : Type} (t : Table α) (code : Nat) : (start count : Nat) → Option (Run α)
  | _, 0 => none
  | start, count + 1 =>
    match t.runs[start + count / 2]? with
    | none => none
    | some run =>
      if code < run.first then search t code start (count / 2)
      else if run.last < code then search t code (start + count / 2 + 1) (count - count / 2)
      else some run
termination_by _ count => count

/-- The run that holds a code point. -/
def find? {α : Type} (t : Table α) (code : Nat) : Option (Run α) := t.search code 0 t.runs.size

def contains {α : Type} (t : Table α) (code : Nat) : Bool := (t.find? code).isSome

end Table

end KernelWallet.Unicode
