import KernelWallet.Bytes

/-! Base64 text in the standard alphabet with canonical padding: every group of four characters
stands for three bytes, a last group of one or two bytes is padded with `=`, and the bits that such
a group leaves unused are zero. -/

namespace KernelWallet.Base64

def alphabet : Array Char :=
  "ABCDEFGHIJKLMNOPQRSTUVWXYZabcdefghijklmnopqrstuvwxyz0123456789+/".toList.toArray

def digit (n : UInt8) : Char :=
  alphabet.getD n.toNat 'A'

def value? (c : Char) : Option UInt8 :=
  if 'A' ≤ c ∧ c ≤ 'Z' then some (UInt8.ofNat (c.toNat - 65))
  else if 'a' ≤ c ∧ c ≤ 'z' then some (UInt8.ofNat (c.toNat - 71))
  else if '0' ≤ c ∧ c ≤ '9' then some (UInt8.ofNat (c.toNat + 4))
  else if c = '+' then some 62
  else if c = '/' then some 63
  else none

def group (a b c : UInt8) : List Char :=
  [digit (a >>> 2), digit ((a &&& 3) <<< 4 ||| b >>> 4), digit ((b &&& 15) <<< 2 ||| c >>> 6),
    digit (c &&& 63)]

/-- Writes three bytes at a time after the characters already written, held last first. -/
def encodeChars (done : List Char) : Bytes → List Char
  | a :: b :: c :: rest => encodeChars ((group a b c).reverse ++ done) rest
  | [a, b] => (['=', digit ((b &&& 15) <<< 2), digit ((a &&& 3) <<< 4 ||| b >>> 4),
      digit (a >>> 2)] ++ done).reverse
  | [a] => (['=', '=', digit ((a &&& 3) <<< 4), digit (a >>> 2)] ++ done).reverse
  | [] => done.reverse

def encode (b : Bytes) : String :=
  String.ofList (encodeChars [] b)

/-- Reads four characters at a time after the bytes already read, held last first. Padding may
only end the text. -/
def decodeChars (done : Bytes) : List Char → Option Bytes
  | [] => some done.reverse
  | [p, q, '=', '='] =>
    match value? p, value? q with
    | some p, some q => if q &&& 15 = 0 then some ((p <<< 2 ||| q >>> 4) :: done).reverse else none
    | _, _ => none
  | [p, q, r, '='] =>
    match value? p, value? q, value? r with
    | some p, some q, some r =>
      if r &&& 3 = 0 then
        some (((q &&& 15) <<< 4 ||| r >>> 2) :: (p <<< 2 ||| q >>> 4) :: done).reverse
      else none
    | _, _, _ => none
  | p :: q :: r :: s :: rest =>
    match value? p, value? q, value? r, value? s with
    | some p, some q, some r, some s =>
      decodeChars (((r &&& 3) <<< 6 ||| s) :: ((q &&& 15) <<< 4 ||| r >>> 2) ::
        (p <<< 2 ||| q >>> 4) :: done) rest
    | _, _, _, _ => none
  | _ => none

/-- The bytes a canonical base64 text stands for. -/
def decode? (s : String) : Option Bytes :=
  decodeChars [] s.toList

end KernelWallet.Base64
