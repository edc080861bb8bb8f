import KernelWallet.Instances

/-! Punycode: text in letters, digits and hyphens that spells other text. What stands before the
last hyphen is kept. What follows are numbers, each of which tells how far to go on, through all
places of the text and all code points in turn, to where the next code point goes in. -/

namespace KernelWallet.Domain.Punycode

/-- The value of a digit: letters of either case, then digits. -/
def digit? (c : Char) : Option Nat :=
  if c.isLower then some (c.toNat - 97)
  else if c.isUpper then some (c.toNat - 65)
  else if c.isDigit then some (c.toNat - 22)
  else none

structure Decoder where
  text : List Nat
  /-- The last code point that went in, and the place behind it. -/
  code : Nat := 128
  place : Nat := 0
  bias : Nat := 72
  /-- The number in progress, the weight of its next digit, and whether it has digits. -/
  number : Nat := 0
  weight : Nat := 1
  position : Nat := 0

/-- The greatest number, and what no weight reaches. -/
def limit : Nat := 2 ^ 32

/-- The least value of a digit that is not the last of its number. -/
def threshold (position bias : Nat) : Nat := min 26 (max 1 (36 * (position + 1) - bias))

/-- Divides a number by 35 until it is at most 455, and counts 36 for each time. -/
def scale (bias n : Nat) : Nat :=
  if 455 < n then scale (bias + 36) (n / 35) else bias + 36 * n / (n + 38)
termination_by n

/-- The bias after a number that led to a text of `length` code points. -/
def adapt (number length : Nat) (isFirst : Bool) : Nat :=
  let n := if isFirst then number / 700 else number / 2
  scale 0 (n + n / length)

/-- Puts in the code point that a finished number leads to. -/
def Decoder.insert? (d : Decoder) (number : Nat) : Option Decoder :=
  let length := d.text.length + 1
  let n := d.place + number
  let code := d.code + n / length
  if code.isValidChar then
    some { text := d.text.insertIdx (n % length) code, code, place := n % length + 1
           bias := adapt number length (d.place == 0) }
  else none

def Decoder.step? (d : Decoder) (c : Char) : Option Decoder := do
  let digit ← digit? c
  let number := d.number + digit * d.weight
  let least := threshold d.position d.bias
  let weight := d.weight * (36 - least)
  if limit ≤ d.place + number then none
  else if digit < least then d.insert? number
  else if limit ≤ weight then none
  else some { d with number, weight, position := d.position + 1 }

/-- The text that a text spells. -/
def decode? (text : List Char) : Option (List Nat) := do
  let digits := (text.reverse.takeWhile (· != '-')).reverse
  let kept := text.take (text.length - digits.length - 1)
  if kept.any (127 < ·.toNat) || (kept.isEmpty && text.contains '-') then none
  let d ← digits.foldlM Decoder.step? { text := kept.map Char.toNat }
  if d.position = 0 then return d.text else none

end KernelWallet.Domain.Punycode
