import KernelWallet.Toml.Lexeme

/-! TOML documents. Lines give values to keys, and headers say in which table the keys are. No key
may be given twice, and no table may be opened twice or changed from another place. -/

namespace KernelWallet.Toml

inductive Value where
  | str (s : String)
  | int (n : Int)
  /-- A number that is no integer, a truth value or a time. -/
  | scalar
  | arr (items : List Value)
  | inline (fields : List (String × Value))

inductive Line where
  | pair (path : List String) (value : Value)
  | header (path : List String)
  | arrayHeader (path : List String)

/-- An inline table in the making: fields by name, and the tables that points in keys have made. -/
inductive Node where
  | value (v : Value)
  /-- `isOpen` tells a table that only headers of others mention; `dotted` one made by points in
  keys. -/
  | table (isOpen dotted : Bool) (fields : List (String × Node))
  /-- The tables of an array, the last first. -/
  | tables (previous : List (List (String × Node))) (last : List (String × Node))

namespace Node

abbrev Fields := List (String × Node)

def put (name : String) (n : Node) (fields : Fields) : Fields :=
  if fields.any (·.1 == name) then fields.map fun f => if f.1 == name then (name, n) else f
  else fields ++ [(name, n)]

/-- Gives a value to a key of one or more parts. The table that gets it has to be one that points
in keys have made, and a table on the way may not have a header of its own. -/
def insert (path : List String) (v : Value) (fields : Fields) : Option Fields :=
  match path with
  | [] => none
  | [name] => if (fields.lookup name).isSome then none else some (put name (.value v) fields)
  | name :: rest =>
    match fields.lookup name with
    | none => do return put name (.table true true (← insert rest v [])) fields
    | some (.table true dotted inner) => do
      guard (dotted || 1 < rest.length)
      return put name (.table true dotted (← insert rest v inner)) fields
    | some (.tables previous last) => do
      guard (1 < rest.length)
      return put name (.tables previous (← insert rest v last)) fields
    | some _ => none
termination_by structural path

/-- Changes the fields of the table at a path. Tables on the way are made as needed, and of an
array of tables the last is meant. -/
def modifyAt (path : List String) (f : Fields → Option Fields) (fields : Fields) : Option Fields :=
  match path with
  | [] => f fields
  | name :: rest =>
    match fields.lookup name with
    | none => do return put name (.table true false (← modifyAt rest f [])) fields
    | some (.table isOpen dotted inner) => do
      return put name (.table isOpen dotted (← modifyAt rest f inner)) fields
    | some (.tables previous last) => do
      return put name (.tables previous (← modifyAt rest f last)) fields
    | some (.value _) => none
termination_by path.length

/-- Opens a table by its header. -/
def openTable (name : String) (fields : Fields) : Option Fields :=
  match fields.lookup name with
  | none => some (put name (.table false false []) fields)
  | some (.table true false inner) => some (put name (.table false false inner) fields)
  | some _ => none

/-- Adds a table to an array. -/
def pushTable (name : String) (fields : Fields) : Option Fields :=
  match fields.lookup name with
  | none => some (put name (.tables [] []) fields)
  | some (.tables previous last) => some (put name (.tables (last :: previous) []) fields)
  | some _ => none

end Node

open Scan

/-- The fields of an inline table, if no key is given twice. -/
def inline? (pairs : List (List String × Value)) : Option Node.Fields :=
  pairs.foldlM (fun fields (path, v) => Node.insert path v fields) []

/-- A word that is not quoted: a truth value, a number or a time. -/
def word? (cs : List Char) : Option Value :=
  if cs == "true".toList || cs == "false".toList then some .scalar
  else match integer? cs with
    | some n => some (.int n)
    | none => if isReal cs || isTime cs then some .scalar else none

def isWordChar (c : Char) : Bool :=
  c.isAlphanum || c == '_' || c == '-' || c == '+' || c == '.' || c == ':'

/-- Takes a word. A blank between a date and a time belongs to it. -/
def bareWord : Scan (List Char) := do
  let first ← run isWordChar
  if first.length == 10 && isTime first then
    let cs ← get
    match cs with
    | ' ' :: d :: _ => if d.isDigit then
        let _ ← char fun _ => true
        return first ++ ' ' :: (← run isWordChar)
    | _ => pure ()
  return first

mutual

/-- A value with at most `room` arrays and inline tables inside one another. -/
def value : (fuel room : Nat) → Scan Value
  | 0, _ => fail
  | fuel + 1, room => do
    match ← peek with
    | some '"' | some '\'' => return .str (← quoted fuel)
    | some '[' => do
      guard (0 < room)
      text "["
      return .arr (← items fuel (room - 1))
    | some '\x7b' => do
      guard (0 < room)
      text "\x7b"
      blanks
      if ← maybe "\x7d" then return .inline []
      let pairs ← fields fuel (room - 1)
      match inline? pairs with
      | some _ => return .inline (pairs.filterMap fun (path, v) => path.head?.map (·, v))
      | none => fail
    | _ => do
      match word? (← bareWord) with
      | some v => return v
      | none => fail

/-- The items of an array up to its end. The last may be followed by a comma. -/
def items : (fuel room : Nat) → Scan (List Value)
  | 0, _ => fail
  | fuel + 1, room => do
    blankLines fuel
    if ← maybe "]" then return []
    let v ← value fuel room
    blankLines fuel
    if ← maybe "," then return v :: (← items fuel room)
    text "]"
    return [v]

/-- The fields of an inline table up to its end. -/
def fields : (fuel room : Nat) → Scan (List (List String × Value))
  | 0, _ => fail
  | fuel + 1, room => do
    let path ← key fuel
    text "="
    blanks
    let v ← value fuel room
    blanks
    if ← maybe "," then return (path, v) :: (← fields fuel room)
    text "\x7d"
    return [(path, v)]

end

/-- A line that holds something. -/
def line (fuel : Nat) : Scan Line := do
  if ← maybe "[[" then
    let path ← key fuel
    text "]]"
    return .arrayHeader path
  else if ← maybe "[" then
    let path ← key fuel
    text "]"
    return .header path
  else
    let path ← key fuel
    text "="
    blanks
    return .pair path (← value fuel maxDepth)

/-- All lines up to the end of the text. -/
def lines : (fuel : Nat) → Scan (List Line)
  | 0 => fail
  | fuel + 1 => do
    blankLines fuel
    if ← atEnd then return []
    let l ← line fuel
    lineEnd
    return l :: (← lines fuel)

/-- A document under construction and the table that keys go to. -/
structure Builder where
  root : Node.Fields := []
  current : List String := []

def Builder.add (b : Builder) : Line → Option Builder
  | .pair path v => do
    return { b with root := ← Node.modifyAt b.current (Node.insert path v) b.root }
  | .header path => do
    let root ← Node.modifyAt path.dropLast (Node.openTable (path.getLastD "")) b.root
    return { root, current := path }
  | .arrayHeader path => do
    let root ← Node.modifyAt path.dropLast (Node.pushTable (path.getLastD "")) b.root
    return { root, current := path }

/-- The top-level fields of a document; none if the text is malformed. A byte order mark at its
start is passed over. -/
def parse? (s : String) : Option Node.Fields := do
  let chars := match s.toList with
    | '\ufeff' :: rest => rest
    | cs => cs
  let (ls, _) ← lines (chars.length + 2) chars
  return (← ls.foldlM Builder.add {}).root

end KernelWallet.Toml
