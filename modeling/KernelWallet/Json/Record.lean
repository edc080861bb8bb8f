import KernelWallet.Json.Number

/-! Reading typed values out of JSON. A record is an object, of which fields that are not named are
ignored, or an array of the fields in order. -/

namespace KernelWallet.Json

def text? : Json → Option String
  | str s => some s
  | _ => none

def natBelow? (bound : Nat) : Json → Option Nat
  | int n => if 0 ≤ n ∧ n < bound then some n.toNat else none
  | _ => none

def uint8? (j : Json) : Option UInt8 := (j.natBelow? (2 ^ 8)).map UInt8.ofNat

def uint16? (j : Json) : Option UInt16 := (j.natBelow? (2 ^ 16)).map UInt16.ofNat

def uint64? (j : Json) : Option UInt64 := (j.natBelow? (2 ^ 64)).map UInt64.ofNat

def int64? : Json → Option Int
  | int n => if -(2 ^ 63 : Nat) ≤ n ∧ n < (2 ^ 63 : Nat) then some n else none
  | _ => none

def list? {α : Type} (f : Json → Option α) : Json → Option (List α)
  | arr items => items.mapM f
  | _ => none

/-- None for null. -/
def nullable? {α : Type} (f : Json → Option α) : Json → Option (Option α)
  | null => some none
  | j => (f j).map some

/-- A text that a function can read. -/
def textOf? {α ε : Type} (f : String → Except ε α) (j : Json) : Option α := do
  (f (← j.text?)).toOption

/-- One of several cases: an object whose only field names it and holds its content. -/
def variant? : Json → Option (String × Json)
  | obj [(name, content)] => some (name, content)
  | _ => none

/-- A case without content: its name, or the same with null for content. -/
def bareVariant? : Json → Option String
  | str name => some name
  | obj [(name, null)] => some name
  | _ => none

structure Record where
  fields : List (String × Json)
  /-- Whether the record is written as an array. -/
  positional : Bool

/-- The fields of a record with the given names. None may occur twice. -/
def record? (names : List String) : Json → Option Record
  | obj fields =>
    if names.any fun name => 1 < fields.countP (·.1 == name) then none else some ⟨fields, false⟩
  | arr items => if items.length ≤ names.length then some ⟨names.zip items, true⟩ else none
  | _ => none

namespace Record

/-- A field that has to be there. -/
def required {α : Type} (r : Record) (name : String) (f : Json → Option α) : Option α := do
  f (← r.fields.lookup name)

/-- A field that has a value when it is not there. -/
def optional {α : Type} (r : Record) (name : String) (default : α) (f : Json → Option α) :
    Option α :=
  match r.fields.lookup name with
  | some j => f j
  | none => some default

/-- A field that may be null or, in an object, not there. -/
def nullable {α : Type} (r : Record) (name : String) (f : Json → Option α) : Option (Option α) :=
  match r.fields.lookup name with
  | some j => nullable? f j
  | none => if r.positional then none else some none

end Record

end KernelWallet.Json
