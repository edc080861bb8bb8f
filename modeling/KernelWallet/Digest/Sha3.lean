import KernelWallet.Digest.Word

/-! SHA3-256: a sponge over 25 lanes of 64 bits with a rate of 136 bytes. Lane `x` of row `y` is
`r`*y*`.x`*x*. -/

namespace KernelWallet.Sha3

open Digest

structure Row where
  x0 : UInt64
  x1 : UInt64
  x2 : UInt64
  x3 : UInt64
  x4 : UInt64

structure State where
  r0 : Row
  r1 : Row
  r2 : Row
  r3 : Row
  r4 : Row

def Row.xor (a b : Row) : Row :=
  ⟨a.x0 ^^^ b.x0, a.x1 ^^^ b.x1, a.x2 ^^^ b.x2, a.x3 ^^^ b.x3, a.x4 ^^^ b.x4⟩

def State.zero : State :=
  ⟨⟨0, 0, 0, 0, 0⟩, ⟨0, 0, 0, 0, 0⟩, ⟨0, 0, 0, 0, 0⟩, ⟨0, 0, 0, 0, 0⟩, ⟨0, 0, 0, 0, 0⟩⟩

/-- Adds to every lane the parities of the column before it and, rotated by one, the column after
it. -/
def theta (s : State) : State :=
  let c := s.r0.xor (s.r1.xor (s.r2.xor (s.r3.xor s.r4)))
  let d : Row := ⟨c.x4 ^^^ rotl64 c.x1 1, c.x0 ^^^ rotl64 c.x2 1, c.x1 ^^^ rotl64 c.x3 1,
    c.x2 ^^^ rotl64 c.x4 1, c.x3 ^^^ rotl64 c.x0 1⟩
  ⟨s.r0.xor d, s.r1.xor d, s.r2.xor d, s.r3.xor d, s.r4.xor d⟩

/-- Rotates every lane by its own amount and moves lane `x` of row `y` to lane `y` of row
`2x + 3y`. -/
def rhoPi (s : State) : State :=
  ⟨⟨s.r0.x0, rotl64 s.r1.x1 44, rotl64 s.r2.x2 43, rotl64 s.r3.x3 21, rotl64 s.r4.x4 14⟩,
    ⟨rotl64 s.r0.x3 28, rotl64 s.r1.x4 20, rotl64 s.r2.x0 3, rotl64 s.r3.x1 45, rotl64 s.r4.x2 61⟩,
    ⟨rotl64 s.r0.x1 1, rotl64 s.r1.x2 6, rotl64 s.r2.x3 25, rotl64 s.r3.x4 8, rotl64 s.r4.x0 18⟩,
    ⟨rotl64 s.r0.x4 27, rotl64 s.r1.x0 36, rotl64 s.r2.x1 10, rotl64 s.r3.x2 15, rotl64 s.r4.x3 56⟩,
    ⟨rotl64 s.r0.x2 62, rotl64 s.r1.x3 55, rotl64 s.r2.x4 39, rotl64 s.r3.x0 41, rotl64 s.r4.x1 2⟩⟩

/-- Combines each lane with the next two of its row, the only step that is not linear. -/
def Row.chi (r : Row) : Row :=
  ⟨r.x0 ^^^ (~~~r.x1 &&& r.x2), r.x1 ^^^ (~~~r.x2 &&& r.x3), r.x2 ^^^ (~~~r.x3 &&& r.x4),
    r.x3 ^^^ (~~~r.x4 &&& r.x0), r.x4 ^^^ (~~~r.x0 &&& r.x1)⟩

def round (s : State) (constant : UInt64) : State :=
  let t := rhoPi (theta s)
  let r0 := t.r0.chi
  ⟨⟨r0.x0 ^^^ constant, r0.x1, r0.x2, r0.x3, r0.x4⟩, t.r1.chi, t.r2.chi, t.r3.chi, t.r4.chi⟩

def roundConstants : List UInt64 :=
  [0x0000000000000001, 0x0000000000008082, 0x800000000000808a, 0x8000000080008000,
   0x000000000000808b, 0x0000000080000001, 0x8000000080008081, 0x8000000000008009,
   0x000000000000008a, 0x0000000000000088, 0x0000000080008009, 0x000000008000000a,
   0x000000008000808b, 0x800000000000008b, 0x8000000000008089, 0x8000000000008003,
   0x8000000000008002, 0x8000000000000080, 0x000000000000800a, 0x800000008000000a,
   0x8000000080008081, 0x8000000000008080, 0x0000000080000001, 0x8000000080008008]

def permute (s : State) : State :=
  roundConstants.foldl round s

/-- Adds the 17 lanes of the block at `i` to the state. -/
def State.xorBlock (s : State) (m : ByteArray) (i : Nat) : State :=
  let w (k : Nat) : UInt64 := word64LE m (i + 8 * k)
  ⟨s.r0.xor ⟨w 0, w 1, w 2, w 3, w 4⟩, s.r1.xor ⟨w 5, w 6, w 7, w 8, w 9⟩,
    s.r2.xor ⟨w 10, w 11, w 12, w 13, w 14⟩, s.r3.xor ⟨w 15, w 16, 0, 0, 0⟩, s.r4⟩

/-- Absorbs `blocks` blocks of 136 bytes from position `i` on. -/
def absorb (m : ByteArray) : (blocks i : Nat) → State → State
  | 0, _, s => s
  | blocks + 1, i, s => absorb m blocks (i + 136) (permute (s.xorBlock m i))

/-- The message, the domain bits `01` and the padding `1 0* 1`, filling whole blocks. -/
def pad (m : ByteArray) : ByteArray :=
  let room := 135 - m.size % 136
  if room = 0 then m.push 0x86 else (appendZeros (m.push 0x06) (room - 1)).push 0x80

def digest (message : Bytes) : Vector UInt8 32 :=
  let m := pad message.toByteArray
  let s := absorb m (m.size / 136) 0 State.zero
  Bytes.vectorLE 32 (s.r0.x0.toNat + 2 ^ 64 * s.r0.x1.toNat + 2 ^ 128 * s.r0.x2.toNat +
    2 ^ 192 * s.r0.x3.toNat)

end KernelWallet.Sha3
