import KernelWallet.Instances

/-! JSON values. The fields of an object keep the order and the repetitions of their text. -/

namespace KernelWallet

inductive Json where
  | null
  | bool (b : Bool)
  /-- An integer of 64 bits, signed or not. -/
  | int (n : Int)
  /-- Any other number, as the bits of the nearest double. -/
  | real (bits : UInt64)
  | str (s : String)
  | arr (items : List Json)
  | obj (fields : List (String × Json))
  /-- What is well written and cannot be held: a number beyond the doubles, a text or a field name
  with half of a surrogate pair, an array or object inside too many others. -/
  | unfit

namespace Json

instance : Inhabited Json := ⟨null⟩

def nat (n : Nat) : Json := int n

def isNull : Json → Bool
  | null => true
  | _ => false

/-- A value, or null in the place of none. -/
def option {α : Type} (f : α → Json) : Option α → Json
  | some a => f a
  | none => null

def list {α : Type} (f : α → Json) (l : List α) : Json := arr (l.map f)

/-- The last of the fields that share a name, in the order of the names. -/
def sortFields (fields : List (String × Json)) : List (String × Json) :=
  (fields.mergeSort fun a b => a.1 ≤ b.1).foldr
    (fun f rest => match rest with
      | [] => [f]
      | g :: tail => if f.1 = g.1 then g :: tail else f :: g :: tail) []

/-- The value with the fields of every object sorted, the last of a repeated field. -/
def canonical : Json → Json
  | arr items => arr (items.attach.map fun ⟨j, _⟩ => canonical j)
  | obj fields => obj (sortFields (fields.attach.map fun ⟨(name, j), _⟩ => (name, canonical j)))
  | j => j
termination_by j => j
decreasing_by
  · decreasing_tactic
  · rename_i h
    have := List.sizeOf_lt_of_mem h
    simp only [Prod.mk.sizeOf_spec] at this
    simp
    omega

/-- Whether a value can be held with all its parts. -/
def fits : Json → Bool
  | unfit => false
  | arr items => items.attach.all fun ⟨j, _⟩ => fits j
  | obj fields => fields.attach.all fun ⟨(_, j), _⟩ => fits j
  | _ => true
termination_by j => j
decreasing_by
  · decreasing_tactic
  · rename_i h
    have := List.sizeOf_lt_of_mem h
    simp only [Prod.mk.sizeOf_spec] at this
    simp
    omega

/-- The value as a whole, if it can be held. -/
def fit? (j : Json) : Option Json := if j.fits then some j else none

end Json

end KernelWallet
