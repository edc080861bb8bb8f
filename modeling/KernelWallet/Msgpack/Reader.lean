import KernelWallet.Bytes

/-! Msgpack reading: bytes to a tree of values, and the views of a value as a number, a byte
string, a text, a list or a record. A view takes every spelling that a value may have. -/

namespace KernelWallet.Msgpack

inductive Value where
  | nil
  | bool (b : Bool)
  /-- A number in one of the unsigned forms. -/
  | nat (n : Nat)
  /-- A number in one of the signed forms. -/
  | int (n : Int)
  | float
  | str (b : Bytes)
  | bin (b : Bytes)
  | array (items : List Value)
  | map (entries : List (Value × Value))
  | ext
  deriving Inhabited

/-- A reader takes what it reads off the front of the bytes that are left. -/
abbrev Reader := StateT Bytes Option

def take (n : Nat) : Reader Bytes := fun b =>
  let (front, rest) := b.splitAt n
  if front.length = n then some (front, rest) else none

/-- A number in `width` bytes. -/
def readNat (width : Nat) : Reader Nat :=
  return (← take width).toNatBE

/-- A number in `width` bytes in two's complement. -/
def readInt (width : Nat) : Reader Int := do
  let n ← readNat width
  return if 2 * n < 256 ^ width then (n : Int) else (n : Int) - (256 ^ width : Nat)

/-- `n` values. Without a reader for nested values there may not be a container. -/
def readItems (nested : Option (Reader Value)) (n : Nat) : Reader Value := do
  match nested with
  | some read => return .array (← readFrom read n [])
  | none => failure

/-- `n` pairs of values. -/
def readEntries (nested : Option (Reader Value)) (n : Nat) : Reader Value := do
  match nested with
  | some read => return .map (← readFrom (do return (← read, ← read)) n [])
  | none => failure

/-- An extension: a type byte and `n` bytes. It counts as a container. -/
def readExt (nested : Option (Reader Value)) (n : Nat) : Reader Value := do
  if nested.isNone then failure
  let _ ← take (n + 1)
  return .ext

/-- What follows the tag of a value whose parts are read by `nested`. -/
def readTagged (nested : Option (Reader Value)) (tag : Nat) : Reader Value :=
  if tag < 0x80 then return .nat tag
  else if tag < 0x90 then readEntries nested (tag - 0x80)
  else if tag < 0xa0 then readItems nested (tag - 0x90)
  else if tag < 0xc0 then do return .str (← take (tag - 0xa0))
  else if 0xe0 ≤ tag then return .int ((tag : Int) - 256)
  else match tag with
    | 0xc0 => return .nil
    | 0xc2 => return .bool false
    | 0xc3 => return .bool true
    | 0xc4 => do return .bin (← take (← readNat 1))
    | 0xc5 => do return .bin (← take (← readNat 2))
    | 0xc6 => do return .bin (← take (← readNat 4))
    | 0xc7 => do readExt nested (← readNat 1)
    | 0xc8 => do readExt nested (← readNat 2)
    | 0xc9 => do readExt nested (← readNat 4)
    | 0xca => do let _ ← take 4; return .float
    | 0xcb => do let _ ← take 8; return .float
    | 0xcc => do return .nat (← readNat 1)
    | 0xcd => do return .nat (← readNat 2)
    | 0xce => do return .nat (← readNat 4)
    | 0xcf => do return .nat (← readNat 8)
    | 0xd0 => do return .int (← readInt 1)
    | 0xd1 => do return .int (← readInt 2)
    | 0xd2 => do return .int (← readInt 4)
    | 0xd3 => do return .int (← readInt 8)
    | 0xd4 => readExt nested 1
    | 0xd5 => readExt nested 2
    | 0xd6 => readExt nested 4
    | 0xd7 => readExt nested 8
    | 0xd8 => readExt nested 16
    | 0xd9 => do return .str (← take (← readNat 1))
    | 0xda => do return .str (← take (← readNat 2))
    | 0xdb => do return .str (← take (← readNat 4))
    | 0xdc => do readItems nested (← readNat 2)
    | 0xdd => do readItems nested (← readNat 4)
    | 0xde => do readEntries nested (← readNat 2)
    | 0xdf => do readEntries nested (← readNat 4)
    | _ => failure

def readHead (nested : Option (Reader Value)) : Reader Value := do
  readTagged nested (← readNat 1)

/-- A value with at most `depth` containers inside one another. -/
def readNested : (depth : Nat) → Reader Value
  | 0 => readHead none
  | depth + 1 => readHead (some (readNested depth))

/-- The most containers inside one another. -/
def maxDepth : Nat := 1023

def readValue : Reader Value := readNested maxDepth

namespace Value

/-- A natural number below `bound`, in any form. -/
def nat? (bound : Nat) : Value → Option Nat
  | nat n => if n < bound then some n else none
  | int n => if 0 ≤ n ∧ n < bound then some n.toNat else none
  | _ => none

/-- A byte string: a bin, a str, or an array of numbers below 256. -/
def bytes? : Value → Option Bytes
  | bin b | str b => some b
  | array items => items.mapM fun v => (v.nat? 256).map UInt8.ofNat
  | _ => none

/-- A text: a str or a bin that holds UTF-8. -/
def text? : Value → Option String
  | bin b | str b => Bytes.toText? b
  | _ => none

/-- A list: an array, or a bin as the numbers of its bytes. -/
def list? : Value → Option (List Value)
  | array items => some items
  | bin b => some (b.map fun byte => nat byte.toNat)
  | _ => none

/-- What a value that may be nil is read as. -/
def option? {α : Type} (read : Value → Option α) : Value → Option (Option α)
  | nil => some none
  | v => (read v).map some

/-- The name of the field that a key of a record stands for: the key is the name as a str or a
bin, or the position of the field. Other names and positions stand for no field. -/
def fieldName? (names : List String) : Value → Option (Option String)
  | str b | bin b => some (names.find? fun name => Bytes.ofText name == b)
  | nat n => some names[n]?
  | _ => none

end Value

/-- The fields of a record by name. -/
abbrev Fields := List (String × Value)

namespace Fields

/-- Adds the fields of `entries`. A field may occur once; an entry that is no field is passed
over. -/
def addEntries (names : List String) : Fields → List (Value × Value) → Option Fields
  | fields, [] => some fields
  | fields, (key, value) :: rest => do
    match ← key.fieldName? names with
    | none => addEntries names fields rest
    | some name =>
      if (fields.lookup name).isSome then none
      else addEntries names ((name, value) :: fields) rest

/-- The fields of a record, which is a map or an array of the fields in order. Of an array the
last `optional` fields may be missing. -/
def ofValue? (names : List String) (optional : Nat) : Value → Option Fields
  | .map entries => addEntries names [] entries
  | .array items =>
    if items.length ≤ names.length ∧ names.length ≤ items.length + optional then
      some (names.zip items)
    else none
  | _ => none

/-- A field that has to be there. -/
def required {α : Type} (fields : Fields) (name : String) (read : Value → Option α) : Option α := do
  read (← fields.lookup name)

/-- A field that may be missing or nil. -/
def optional {α : Type} (fields : Fields) (name : String) (read : Value → Option α) :
    Option (Option α) :=
  match fields.lookup name with
  | none => some none
  | some v => v.option? read

end Fields

end KernelWallet.Msgpack
