import KernelWallet.Json.Number
import KernelWallet.Text.Hex

/-! JSON text: compact, or over several lines with two blanks to a level. -/

namespace KernelWallet.Json

/-- A character inside quotes. Quote, backslash and control characters are escaped. -/
def escape (c : Char) : String :=
  if c == '"' then "\\\""
  else if c == '\\' then "\\\\"
  else if c == '\x08' then "\\b"
  else if c == '\x0c' then "\\f"
  else if c == '\n' then "\\n"
  else if c == '\r' then "\\r"
  else if c == '\t' then "\\t"
  else if c.toNat < 0x20 then "\\u00" ++ Hex.encode [UInt8.ofNat c.toNat]
  else c.toString

def quote (s : String) : String :=
  s.foldl (fun text c => text ++ escape c) "\"" ++ "\""

def compact : Json → String
  | null | unfit => "null"
  | bool b => if b then "true" else "false"
  | int n => toString n
  | real bits => Double.toText bits
  | str s => quote s
  | arr items => "[" ++ ",".intercalate (items.attach.map fun ⟨j, _⟩ => compact j) ++ "]"
  | obj fields =>
    "\x7b" ++ ",".intercalate
      (fields.attach.map fun ⟨(name, j), _⟩ => quote name ++ ":" ++ compact j) ++ "\x7d"
termination_by j => j
decreasing_by
  · decreasing_tactic
  · rename_i h
    have := List.sizeOf_lt_of_mem h
    simp only [Prod.mk.sizeOf_spec] at this
    simp
    omega

/-- A line break and the blanks of a level. -/
def newLine (level : Nat) : String :=
  String.ofList ('\n' :: List.replicate (2 * level) ' ')

/-- The parts of an array or object between its brackets, each on a line of its own. -/
def block (first last : String) (level : Nat) (parts : List String) : String :=
  if parts.isEmpty then first ++ last
  else first ++ newLine (level + 1) ++ ("," ++ newLine (level + 1)).intercalate parts ++
    newLine level ++ last

/-- The text over several lines, from a level on. -/
def prettyFrom (level : Nat) : Json → String
  | arr items => block "[" "]" level (items.attach.map fun ⟨j, _⟩ => prettyFrom (level + 1) j)
  | obj fields =>
    block "\x7b" "\x7d" level
      (fields.attach.map fun ⟨(name, j), _⟩ => quote name ++ ": " ++ prettyFrom (level + 1) j)
  | j => compact j
termination_by j => j
decreasing_by
  · decreasing_tactic
  · rename_i h
    have := List.sizeOf_lt_of_mem h
    simp only [Prod.mk.sizeOf_spec] at this
    simp
    omega

def pretty (j : Json) : String := prettyFrom 0 j

end KernelWallet.Json
