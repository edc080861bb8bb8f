import KernelWallet.Text.Hex

/-! Identifiers of 16 bytes, named in the API by their hyphenated text. -/

namespace KernelWallet

structure Uuid where
  bytes : Vector UInt8 16
  deriving DecidableEq

namespace Uuid

def toBytes (u : Uuid) : Bytes := u.bytes.toList

/-- The hyphenated text, 8-4-4-4-12 lower-case digits. -/
def toText (u : Uuid) : String :=
  let b := u.toBytes
  let part (i n : Nat) : String := Hex.encode ((b.drop i).take n)
  "-".intercalate [part 0 4, part 4 2, part 6 2, part 8 2, part 10 6]

/-- An identifier from exactly 32 digits. -/
def ofDigits? (digits : List Char) : Option Uuid := do
  let b ← Hex.decodeChars [] digits
  return ⟨← b.toVector? 16⟩

/-- An identifier from its hyphenated text. -/
def ofHyphenated? (s : List Char) : Option Uuid :=
  let hyphen (i : Nat) : Bool := s[i]? == some '-'
  let part (i n : Nat) : List Char := (s.drop i).take n
  if s.length = 36 && hyphen 8 && hyphen 13 && hyphen 18 && hyphen 23 then
    ofDigits? (part 0 8 ++ part 9 4 ++ part 14 4 ++ part 19 4 ++ part 24 12)
  else none

/-- An identifier from 32 digits or from the hyphenated text, which may stand in braces or after
`urn:uuid:` in letters of either case. -/
def ofText? (text : String) : Option Uuid :=
  let s := text.toList
  if s.length = 32 then ofDigits? s
  else if s.length = 38 && s.head? == some '{' && s.getLast? == some '}' then
    ofHyphenated? ((s.drop 1).take 36)
  else if s.length = 45 && (s.take 9).map Char.toLower == "urn:uuid:".toList then
    ofHyphenated? (s.drop 9)
  else ofHyphenated? s

/-- Sets the version digit and the variant bits of 16 bytes. -/
def stamp (version : UInt8) (b : Vector UInt8 16) : Uuid :=
  let b := b.set 6 ((b[6] &&& (0x0f : UInt8)) ||| version <<< 4)
  ⟨b.set 8 ((b[8] &&& (0x3f : UInt8)) ||| 0x80)⟩

end Uuid

end KernelWallet
