import KernelWallet.Instances

/-! The smallest pieces of TOML text: blanks, comments, keys, quoted texts, numbers and times. A
piece is read off the front of the text and leaves the rest. -/

namespace KernelWallet.Toml

/-- Reads a piece off the front of a text, or finds that it is not there. -/
abbrev Scan := StateT (List Char) Option

namespace Scan

def fail {α : Type} : Scan α := fun _ => none

/-- The next character, which is left where it is. -/
def peek : Scan (Option Char) := fun cs => some (cs.head?, cs)

/-- Takes the next character if it meets a condition. -/
def char (p : Char → Bool) : Scan Char
  | c :: rest => if p c then some (c, rest) else none
  | [] => none

/-- Takes the characters that meet a condition. -/
def run (p : Char → Bool) : Scan (List Char) := fun cs =>
  let taken := cs.takeWhile p
  some (taken, cs.drop taken.length)

def text (s : String) : Scan Unit := fun cs =>
  if s.toList.isPrefixOf cs then some ((), cs.drop s.length) else none

/-- Takes a text if it comes next. -/
def maybe (s : String) : Scan Bool := fun cs =>
  if s.toList.isPrefixOf cs then some (true, cs.drop s.length) else some (false, cs)

def atEnd : Scan Bool := fun cs => some (cs.isEmpty, cs)

/-- Exactly `n` characters that meet a condition. -/
def exactly (n : Nat) (p : Char → Bool) : Scan (List Char) := fun cs =>
  let taken := cs.take n
  if taken.length = n ∧ taken.all p then some (taken, cs.drop n) else none

end Scan

open Scan

def isBlank (c : Char) : Bool := c == ' ' || c == '\t'

def blanks : Scan Unit := do
  let _ ← run isBlank

/-- Whether a character may stand in a comment or a quoted text. -/
def isPlain (c : Char) : Bool := c == '\t' || (0x20 ≤ c.toNat && c.toNat != 0x7f)

def newLine : Scan Unit := do
  if ← maybe "\r\n" then return
  text "\n"

def comment : Scan Unit := do
  if ← maybe "#" then
    let _ ← run isPlain

/-- Blanks, comments and line breaks. Each pass takes at least one line break. -/
def blankLines : (fuel : Nat) → Scan Unit
  | 0 => pure ()
  | fuel + 1 => do
    blanks
    comment
    match ← peek with
    | some '\n' | some '\r' => do
      newLine
      blankLines fuel
    | _ => pure ()

/-- The end of a line that holds nothing more. -/
def lineEnd : Scan Unit := do
  blanks
  comment
  if ← atEnd then return
  newLine

def isHex (c : Char) : Bool :=
  c.isDigit || ('a' ≤ c && c ≤ 'f') || ('A' ≤ c && c ≤ 'F')

def digit (c : Char) : Nat :=
  if c.isDigit then c.toNat - 48 else if c ≤ 'F' then c.toNat - 55 else c.toNat - 87

def number (base : Nat) (ds : List Char) : Nat := ds.foldl (fun n c => base * n + digit c) 0

def codePoint (n : Nat) : Scan Char := do
  let code := number 16 (← exactly n isHex)
  if h : code.isValidChar then return Char.ofNatAux code h else fail

/-- The character that an escape stands for, after its backslash. -/
def escape : Scan Char := do
  match ← char fun _ => true with
  | 'b' => return '\x08'
  | 't' => return '\t'
  | 'n' => return '\n'
  | 'f' => return '\x0c'
  | 'r' => return '\r'
  | '"' => return '"'
  | '\\' => return '\\'
  | 'u' => codePoint 4
  | 'U' => codePoint 8
  | _ => fail

/-- The rest of a text in double quotes on one line, after the characters in `done`, the last
first. -/
def basic : (fuel : Nat) → (done : List Char) → Scan String
  | 0, _ => fail
  | fuel + 1, done => do
    match ← char fun c => isPlain c with
    | '"' => return String.ofList done.reverse
    | '\\' => basic fuel ((← escape) :: done)
    | c => basic fuel (c :: done)

/-- The rest of a text in single quotes. -/
def literal : Scan String := do
  let body ← run fun c => isPlain c && c != '\''
  text "'"
  return String.ofList body

/-- A line break inside a text over several lines. -/
def innerBreak (done : List Char) : Scan (List Char) := do
  if ← maybe "\r\n" then return '\n' :: done
  text "\n"
  return '\n' :: done

/-- Blanks and line breaks in any order. -/
def blankBreaks : (fuel : Nat) → Scan Unit
  | 0 => pure ()
  | fuel + 1 => do
    blanks
    match ← peek with
    | some '\n' | some '\r' => do
      newLine
      blankBreaks fuel
    | _ => pure ()

/-- The end of a text over several lines, which may hold up to two quotes before its closing
three. -/
def closing (quote : Char) (done : List Char) : Scan (Option (List Char)) := fun cs =>
  let n := (cs.takeWhile (· == quote)).length
  if n < 3 then some (none, cs)
  else
    let inner := min (n - 3) 2
    some (some (List.replicate inner quote ++ done), cs.drop (inner + 3))

/-- The rest of a text over several lines in three double quotes. A backslash at the end of a line
takes the blanks and line breaks that follow. -/
def multiBasic : (fuel : Nat) → (done : List Char) → Scan String
  | 0, _ => fail
  | fuel + 1, done => do
    match ← closing '"' done with
    | some done => return String.ofList done.reverse
    | none =>
      match ← peek with
      | some '\n' | some '\r' => multiBasic fuel (← innerBreak done)
      | some '\\' => do
        let _ ← char fun _ => true
        match ← peek with
        | some ' ' | some '\t' | some '\n' | some '\r' => do
          blanks
          newLine
          blankBreaks fuel
          multiBasic fuel done
        | _ => multiBasic fuel ((← escape) :: done)
      | _ => multiBasic fuel ((← char isPlain) :: done)

/-- The rest of a text over several lines in three single quotes. -/
def multiLiteral : (fuel : Nat) → (done : List Char) → Scan String
  | 0, _ => fail
  | fuel + 1, done => do
    match ← closing '\'' done with
    | some done => return String.ofList done.reverse
    | none =>
      match ← peek with
      | some '\n' | some '\r' => multiLiteral fuel (← innerBreak done)
      | _ => multiLiteral fuel ((← char isPlain) :: done)

/-- A line break right after the opening quotes is left out. -/
def skipFirstBreak : Scan Unit := do
  if !(← maybe "\r\n") then
    let _ ← maybe "\n"

/-- A quoted text of any of the four kinds. -/
def quoted (fuel : Nat) : Scan String := do
  if ← maybe "\"\"\"" then
    skipFirstBreak
    multiBasic fuel []
  else if ← maybe "\"" then basic fuel []
  else if ← maybe "'''" then
    skipFirstBreak
    multiLiteral fuel []
  else
    text "'"
    literal

def isBareKey (c : Char) : Bool := c.isAlphanum || c == '_' || c == '-'

/-- One part of a key. -/
def keyPart (fuel : Nat) : Scan String := do
  match ← peek with
  | some '"' => do
    text "\""
    basic fuel []
  | some '\'' => do
    text "'"
    literal
  | _ => do
    let part ← run isBareKey
    if part.isEmpty then fail else return String.ofList part

/-- How far a document may nest: the most parts of a key, and the most arrays and inline tables
inside one another. -/
def maxDepth : Nat := 79

/-- Parts of a key with points between them. -/
def keyParts : (fuel : Nat) → Scan (List String)
  | 0 => fail
  | fuel + 1 => do
    blanks
    let part ← keyPart fuel
    blanks
    if ← maybe "." then return part :: (← keyParts fuel) else return [part]

def key (fuel : Nat) : Scan (List String) := do
  let parts ← keyParts fuel
  if parts.length ≤ maxDepth then return parts else fail

/-- Digits without their underscores, each of which has to stand between two digits. -/
def plainDigits? (isDigit : Char → Bool) (ds : List Char) : Option (List Char) :=
  let rec go (afterDigit : Bool) : List Char → Option (List Char)
    | [] => if afterDigit then some [] else none
    | c :: rest =>
      if c == '_' then if afterDigit then go false rest else none
      else if isDigit c then (go true rest).map (c :: ·) else none
  go false ds

/-- A decimal integer without its sign. Only zero starts with a zero. -/
def decimal? (ds : List Char) : Option Nat := do
  let ds ← plainDigits? Char.isDigit ds
  if ds.head? == some '0' && 1 < ds.length then none else return number 10 ds

/-- An integer of 64 bits: decimal with an optional sign, or with a base and no sign. -/
def integer? (cs : List Char) : Option Int := do
  let n : Int ← match cs with
    | '+' :: ds => (decimal? ds).map Int.ofNat
    | '-' :: ds => (decimal? ds).map fun n => -(n : Int)
    | '0' :: 'x' :: ds => (plainDigits? isHex ds).map fun ds => (number 16 ds : Int)
    | '0' :: 'o' :: ds =>
      (plainDigits? (fun c => '0' ≤ c && c ≤ '7') ds).map fun ds => (number 8 ds : Int)
    | '0' :: 'b' :: ds =>
      (plainDigits? (fun c => c == '0' || c == '1') ds).map fun ds => (number 2 ds : Int)
    | ds => (decimal? ds).map Int.ofNat
  if -(2 ^ 63 : Nat) ≤ n ∧ n < (2 ^ 63 : Nat) then some n else none

/-- A text without the sign it may start with. -/
def dropSign : List Char → List Char
  | '+' :: rest => rest
  | '-' :: rest => rest
  | cs => cs

/-- The power of ten behind an `e`. -/
def exponent? : List Char → Option Int
  | e :: rest => do
    let ds ← plainDigits? Char.isDigit (dropSign rest)
    let n : Int := number 10 ds
    if e == 'e' || e == 'E' then return if rest.head? == some '-' then -n else n else none
  | [] => none

/-- The digits of a number without its sign, and their power of ten. There is a fraction, an
exponent or both. -/
def realParts? (cs : List Char) : Option (Nat × Int) := do
  let isPart (c : Char) : Bool := c.isDigit || c == '_'
  let whole := cs.takeWhile isPart
  let n ← decimal? whole
  match cs.drop whole.length with
  | '.' :: rest =>
    let fraction := rest.takeWhile isPart
    let ds ← plainDigits? Char.isDigit fraction
    let rest := rest.drop fraction.length
    let e ← if rest.isEmpty then some 0 else exponent? rest
    return (10 ^ ds.length * n + number 10 ds, e - ds.length)
  | rest => return (n, ← exponent? rest)

/-- Whether `n * 10 ^ e` is nearer to `2 ^ 1024` than to the greatest double, or as near. -/
def overflows (n : Nat) (e : Int) : Bool :=
  if n = 0 then false
  else if 400 ≤ e then true
  else if 0 ≤ e then 2 ^ 1024 - 2 ^ 970 ≤ n * 10 ^ e.toNat
  else
    let digits : Int := (Nat.toDigits 10 n).length
    if digits + e < 300 then false
    else (2 ^ 1024 - 2 ^ 970) * 10 ^ (-e).toNat ≤ n

/-- Whether a word is a number with a fraction, an exponent or both, or infinite or undefined. Only
a negative one may be beyond the doubles. -/
def isReal (cs : List Char) : Bool :=
  let word := dropSign cs
  word == "inf".toList || word == "nan".toList ||
    match realParts? word with
    | some (n, e) => cs.head? == some '-' || !overflows n e
    | none => false

/-- The number of two or four digits at the front of a word. -/
def digitsAt (n : Nat) : Scan Nat := do
  return number 10 (← exactly n Char.isDigit)

def daysIn (year month : Nat) : Nat :=
  if month = 2 then
    if year % 4 = 0 ∧ (year % 100 ≠ 0 ∨ year % 400 = 0) then 29 else 28
  else if [4, 6, 9, 11].contains month then 30
  else 31

def date : Scan Unit := do
  let year ← digitsAt 4
  text "-"
  let month ← digitsAt 2
  text "-"
  let day ← digitsAt 2
  if 1 ≤ month ∧ month ≤ 12 ∧ 1 ≤ day ∧ day ≤ daysIn year month then return else fail

def time : Scan Unit := do
  let hour ← digitsAt 2
  text ":"
  let minute ← digitsAt 2
  text ":"
  let second ← digitsAt 2
  if 23 < hour ∨ 59 < minute ∨ 60 < second then fail
  if ← maybe "." then
    if (← run Char.isDigit).isEmpty then fail

/-- The distance of a time from universal time. -/
def offset : Scan Unit := do
  match ← char fun _ => true with
  | 'Z' | 'z' => return
  | '+' | '-' => do
    let hour ← digitsAt 2
    text ":"
    let minute ← digitsAt 2
    if 23 < hour ∨ 59 < minute then fail
  | _ => fail

/-- Whether a word is a date, a time, or a date and a time with or without its offset. -/
def isTime (cs : List Char) : Bool :=
  let whole (s : Scan Unit) : Bool := match s cs with
    | some ((), []) => true
    | _ => false
  let dateTime : Scan Unit := do
    date
    let _ ← char fun c => c == 'T' || c == 't' || c == ' '
    time
  whole date || whole time || whole dateTime || whole (do dateTime; offset)

end KernelWallet.Toml
