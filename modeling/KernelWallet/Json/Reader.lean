import KernelWallet.Json.Number

/-! Reading JSON text. The reader takes one character at a time and keeps a stack of the arrays and
objects that are open. It knows two kinds of fault: a text that is not JSON has no value, and a part
that cannot be held is marked as unfit in the value, so that a record may still pass over it. -/

namespace KernelWallet.Json

namespace Reader

/-- An array or object that is open, with its parts so far, the last first. -/
inductive Frame where
  | array (items : List Json)
  /-- The value of `name` is being read. `namesFit` tells whether all names can be held. -/
  | object (fields : List (String × Json)) (name : String) (namesFit : Bool)

/-- What the next character may belong to. A text in progress is held last character first. -/
inductive Mode where
  | value
  /-- A value, or the end of the array just opened. -/
  | firstItem
  /-- The name of a field; at the start of an object also its end. -/
  | name (canClose : Bool)
  | colon
  /-- A comma or the end of what is open. -/
  | next
  | quoted (text : List Char)
  /-- The character after a backslash. -/
  | escape (text : List Char)
  /-- A `\u` escape of which `missing` digits are still to come. `high` is the first half of a
  pair. -/
  | unicode (text : List Char) (high : Option Nat) (missing code : Nat)
  /-- The backslash, then the `u`, that must follow the first half of a pair. -/
  | lowHalf (text : List Char) (high : Nat) (sawBackslash : Bool)
  | number (text : List Char)
  /-- The rest of a word and the value it stands for. -/
  | word (rest : List Char) (value : Json)
  | done (value : Json)

end Reader

/-- A reader between two characters. `inName` tells a quoted name from a quoted value, `halved`
whether the text in progress has half of a pair. -/
structure Reader where
  frames : List Reader.Frame := []
  inName : Bool := false
  halved : Bool := false
  mode : Reader.Mode := .value

namespace Reader

/-- The most arrays and objects inside one another that can be held. -/
def maxDepth : Nat := 127

def isBlank (c : Char) : Bool := c == ' ' || c == '\n' || c == '\t' || c == '\r'

/-- Puts a finished value where it belongs. -/
def finish (frames : List Frame) (v : Json) : Reader :=
  match frames with
  | [] => { mode := .done v }
  | .array items :: rest => { frames := .array (v :: items) :: rest, mode := .next }
  | .object fields name namesFit :: rest =>
    { frames := .object ((name, v) :: fields) name namesFit :: rest, mode := .next }

def close (outer : List Frame) (v : Json) : Reader :=
  finish outer (if (outer.drop (maxDepth - 1)).isEmpty then v else .unfit)

def start (r : Reader) (c : Char) : Option Reader :=
  if c == '"' then some { r with mode := .quoted [], inName := false }
  else if c == '[' then some { frames := .array [] :: r.frames, mode := .firstItem }
  else if c == '\x7b' then some { frames := .object [] "" true :: r.frames, mode := .name true }
  else if c == 't' then some { r with mode := .word "rue".toList (.bool true) }
  else if c == 'f' then some { r with mode := .word "alse".toList (.bool false) }
  else if c == 'n' then some { r with mode := .word "ull".toList .null }
  else if c == '-' || c.isDigit then some { r with mode := .number [c] }
  else none

/-- A comma, or the end of the array or object that is open innermost. -/
def afterValue (r : Reader) (c : Char) : Option Reader :=
  match r.frames with
  | .array items :: rest =>
    if c == ',' then some { r with mode := .value }
    else if c == ']' then some (close rest (.arr items.reverse))
    else none
  | .object fields _ namesFit :: rest =>
    if c == ',' then some { r with mode := .name false }
    else if c == '\x7d' then
      some (close rest (if namesFit then .obj fields.reverse else .unfit))
    else none
  | [] => none

def closeQuote (r : Reader) (text : List Char) : Reader :=
  let s := String.ofList text.reverse
  match r.inName, r.frames with
  | true, .object fields _ namesFit :: rest =>
    { frames := .object fields s (namesFit && !r.halved) :: rest, mode := .colon }
  | _, frames => finish frames (if r.halved then .unfit else .str s)

/-- The character that an escape of one letter stands for. -/
def unescape? (c : Char) : Option Char :=
  if c == '"' || c == '\\' || c == '/' then some c
  else if c == 'b' then some '\x08'
  else if c == 'f' then some '\x0c'
  else if c == 'n' then some '\n'
  else if c == 'r' then some '\r'
  else if c == 't' then some '\t'
  else none

def hexValue? (c : Char) : Option Nat :=
  if '0' ≤ c ∧ c ≤ '9' then some (c.toNat - 48)
  else if 'a' ≤ c ∧ c ≤ 'f' then some (c.toNat - 87)
  else if 'A' ≤ c ∧ c ≤ 'F' then some (c.toNat - 55)
  else none

/-- Ends a `\u` escape. The halves of a pair have to come together and in order. -/
def closeUnicode (r : Reader) (text : List Char) (high : Option Nat) (code : Nat) : Reader :=
  let isHigh : Bool := 0xD800 ≤ code && code < 0xDC00
  let isLow : Bool := 0xDC00 ≤ code && code < 0xE000
  match high with
  | none =>
    if isHigh then { r with mode := .lowHalf text code false }
    else if isLow then { r with mode := .quoted text, halved := true }
    else { r with mode := .quoted (Char.ofNat code :: text) }
  | some h =>
    if isLow then
      let c := Char.ofNat (0x10000 + (h - 0xD800) * 0x400 + (code - 0xDC00))
      { r with mode := .quoted (c :: text) }
    else { r with mode := .quoted text, halved := true }

def stepQuoted (r : Reader) (text : List Char) (c : Char) : Option Reader :=
  if c == '"' then some (r.closeQuote text)
  else if c == '\\' then some { r with mode := .escape text }
  else if c.toNat < 0x20 then none
  else some { r with mode := .quoted (c :: text) }

def stepEscape (r : Reader) (text : List Char) (c : Char) : Option Reader :=
  if c == 'u' then some { r with mode := .unicode text none 4 0 }
  else (unescape? c).map fun x => { r with mode := .quoted (x :: text) }

/-- Takes a character after the first half of a pair. Any but the escape of a second half leaves the
text with half a pair. -/
def stepLowHalf (r : Reader) (text : List Char) (high : Nat) (sawBackslash : Bool) (c : Char) :
    Option Reader :=
  if sawBackslash then
    if c == 'u' then some { r with mode := .unicode text (some high) 4 0 }
    else stepEscape { r with halved := true } text c
  else if c == '\\' then some { r with mode := .lowHalf text high true }
  else stepQuoted { r with halved := true } text c

/-- Takes a character that is not part of a number. -/
def stepOther (r : Reader) (c : Char) : Option Reader :=
  match r.mode with
  | .value => if isBlank c then some r else r.start c
  | .firstItem =>
    if isBlank c then some r
    else if c == ']' then some (close r.frames.tail (.arr []))
    else r.start c
  | .name canClose =>
    if isBlank c then some r
    else if c == '"' then some { r with mode := .quoted [], inName := true }
    else if canClose && c == '\x7d' then some (close r.frames.tail (.obj []))
    else none
  | .colon =>
    if isBlank c then some r else if c == ':' then some { r with mode := .value } else none
  | .next => if isBlank c then some r else r.afterValue c
  | .quoted text => r.stepQuoted text c
  | .escape text => r.stepEscape text c
  | .unicode text high missing code =>
    match hexValue? c, missing with
    | some d, 1 => some (r.closeUnicode text high (16 * code + d))
    | some d, missing + 1 => some { r with mode := .unicode text high missing (16 * code + d) }
    | _, _ => none
  | .lowHalf text high sawBackslash => r.stepLowHalf text high sawBackslash c
  | .word rest v =>
    match rest with
    | [] => none
    | [x] => if c == x then some (finish r.frames v) else none
    | x :: rest => if c == x then some { r with mode := .word rest v } else none
  | .done _ => if isBlank c then some r else none
  | .number _ => none

/-- Whether a character can go on a number. -/
def continuesNumber (c : Char) : Bool :=
  c.isDigit || c == '.' || c == 'e' || c == 'E' || c == '+' || c == '-'

/-- Takes the next character. A number ends at the first character that cannot go on it. -/
def step (r : Reader) (c : Char) : Option Reader :=
  match r.mode with
  | .number text =>
    if continuesNumber c then some { r with mode := .number (c :: text) }
    else do stepOther (finish r.frames (← Number.ofChars? text.reverse)) c
  | _ => r.stepOther c

/-- The value that has been read, if the text ends here. -/
def result? (r : Reader) : Option Json :=
  match r.mode, r.frames with
  | .done v, _ => some v
  | .number text, [] => Number.ofChars? text.reverse
  | _, _ => none

end Reader

/-- The value of a JSON text, with a mark for every part that cannot be held. -/
def scan? (s : String) : Option Json := do
  (← s.toList.foldlM Reader.step {}).result?

/-- The value of a JSON text that can be held as a whole. -/
def parse? (s : String) : Option Json := do
  (← scan? s).fit?

end KernelWallet.Json
