import KernelWallet.Bytes

/-! Machine words read out of a message, and their rotations. Positions past the end of the
message read as zero bytes. -/

namespace KernelWallet.Digest

def byteAt (m : ByteArray) (i : Nat) : UInt8 :=
  if h : i < m.size then m[i] else 0

def word32LE (m : ByteArray) (i : Nat) : UInt32 :=
  (byteAt m i).toUInt32 ||| (byteAt m (i + 1)).toUInt32 <<< 8 |||
    (byteAt m (i + 2)).toUInt32 <<< 16 ||| (byteAt m (i + 3)).toUInt32 <<< 24

def word64LE (m : ByteArray) (i : Nat) : UInt64 :=
  (word32LE m i).toUInt64 ||| (word32LE m (i + 4)).toUInt64 <<< 32

def word32BE (m : ByteArray) (i : Nat) : UInt32 :=
  (byteAt m i).toUInt32 <<< 24 ||| (byteAt m (i + 1)).toUInt32 <<< 16 |||
    (byteAt m (i + 2)).toUInt32 <<< 8 ||| (byteAt m (i + 3)).toUInt32

def word64BE (m : ByteArray) (i : Nat) : UInt64 :=
  (word32BE m i).toUInt64 <<< 32 ||| (word32BE m (i + 4)).toUInt64

/-- Rotates left by an amount between 1 and 63. -/
@[inline] def rotl64 (x n : UInt64) : UInt64 :=
  x <<< n ||| x >>> (64 - n)

/-- Rotates right by an amount between 1 and 63. -/
@[inline] def rotr64 (x n : UInt64) : UInt64 :=
  x >>> n ||| x <<< (64 - n)

/-- Rotates right by an amount between 1 and 31. -/
@[inline] def rotr32 (x n : UInt32) : UInt32 :=
  x >>> n ||| x <<< (32 - n)

/-- A message followed by `n` zero bytes. -/
def appendZeros (m : ByteArray) : (n : Nat) → ByteArray
  | 0 => m
  | n + 1 => appendZeros (m.push 0) n

end KernelWallet.Digest
