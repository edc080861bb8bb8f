import KernelWallet.Bytes

/-! Msgpack writing. Every value is written in the shortest form of its kind, and a record as a map
from field names. Lengths are below 2^32. -/

namespace KernelWallet.Msgpack

def writeNil : Bytes := [0xc0]

/-- A natural number below 2^64. -/
def writeNat (n : Nat) : Bytes :=
  if n < 2 ^ 7 then [UInt8.ofNat n]
  else if n < 2 ^ 8 then 0xcc :: Bytes.ofNatBE 1 n
  else if n < 2 ^ 16 then 0xcd :: Bytes.ofNatBE 2 n
  else if n < 2 ^ 32 then 0xce :: Bytes.ofNatBE 4 n
  else 0xcf :: Bytes.ofNatBE 8 n

/-- A byte string behind its length. -/
def writeBin (b : Bytes) : Bytes :=
  let n := b.length
  let head : Bytes :=
    if n < 2 ^ 8 then 0xc4 :: Bytes.ofNatBE 1 n
    else if n < 2 ^ 16 then 0xc5 :: Bytes.ofNatBE 2 n
    else 0xc6 :: Bytes.ofNatBE 4 n
  head ++ b

/-- The UTF-8 bytes of a text behind their number. -/
def writeText (s : String) : Bytes :=
  let b := Bytes.ofText s
  let n := b.length
  let head : Bytes :=
    if n < 32 then [0xa0 + UInt8.ofNat n]
    else if n < 2 ^ 8 then 0xd9 :: Bytes.ofNatBE 1 n
    else if n < 2 ^ 16 then 0xda :: Bytes.ofNatBE 2 n
    else 0xdb :: Bytes.ofNatBE 4 n
  head ++ b

/-- Written values behind their number. -/
def writeArray (items : List Bytes) : Bytes :=
  let n := items.length
  let head : Bytes :=
    if n < 16 then [0x90 + UInt8.ofNat n]
    else if n < 2 ^ 16 then 0xdc :: Bytes.ofNatBE 2 n
    else 0xdd :: Bytes.ofNatBE 4 n
  head ++ items.flatten

/-- Fields of a record with their written values. A record has fewer than sixteen. -/
def writeRecord (fields : List (String × Bytes)) : Bytes :=
  (0x80 + UInt8.ofNat fields.length) :: fields.flatMap fun (name, value) => writeText name ++ value

/-- A written value, or nil where there is none. -/
def writeOption (value : Option Bytes) : Bytes :=
  value.getD writeNil

end KernelWallet.Msgpack
