import KernelWallet.Bytes

/-! Hexadecimal text. Writing uses lower-case digits, two to a byte; reading takes digits of
either case and an even number of them. -/

namespace KernelWallet.Hex

def digit (n : UInt8) : Char :=
  Char.ofNat (if n < 10 then 48 + n.toNat else 87 + n.toNat)

/-- The value of a digit of either case. -/
def value? (c : Char) : Option UInt8 :=
  if '0' ≤ c ∧ c ≤ '9' then some (UInt8.ofNat (c.toNat - 48))
  else if 'a' ≤ c ∧ c ≤ 'f' then some (UInt8.ofNat (c.toNat - 87))
  else if 'A' ≤ c ∧ c ≤ 'F' then some (UInt8.ofNat (c.toNat - 55))
  else none

/-- The two digits of a byte, high half first. -/
def pair (b : UInt8) : List Char :=
  [digit (b >>> 4), digit (b &&& 15)]

def encode (b : Bytes) : String :=
  String.ofList (b.flatMap pair)

/-- Reads digits two by two, after the bytes already read, which are held last first. -/
def decodeChars (done : Bytes) : List Char → Option Bytes
  | [] => some done.reverse
  | [_] => none
  | hi :: lo :: rest =>
    match value? hi, value? lo with
    | some x, some y => decodeChars ((16 * x + y) :: done) rest
    | _, _ => none

/-- The bytes a text of hex digits stands for. -/
def decode? (s : String) : Option Bytes :=
  decodeChars [] s.toList

end KernelWallet.Hex
