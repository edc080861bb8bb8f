import KernelWallet.Digest.Word

/-! BLAKE3 with a 32-byte output. The message is cut into chunks of 1024 bytes, the leaves of a
binary tree in which every left subtree is full; a chunk is a chain of blocks of 64 bytes. -/

namespace KernelWallet.Blake3

open Digest

/-- Eight words: a chaining value, or half of a block. -/
structure Words where
  w0 : UInt32
  w1 : UInt32
  w2 : UInt32
  w3 : UInt32
  w4 : UInt32
  w5 : UInt32
  w6 : UInt32
  w7 : UInt32

/-- Sixteen words: a message block, or the state of the compression function. -/
structure Block where
  v0 : UInt32
  v1 : UInt32
  v2 : UInt32
  v3 : UInt32
  v4 : UInt32
  v5 : UInt32
  v6 : UInt32
  v7 : UInt32
  v8 : UInt32
  v9 : UInt32
  v10 : UInt32
  v11 : UInt32
  v12 : UInt32
  v13 : UInt32
  v14 : UInt32
  v15 : UInt32

def iv : Words :=
  ⟨0x6a09e667, 0xbb67ae85, 0x3c6ef372, 0xa54ff53a,
    0x510e527f, 0x9b05688c, 0x1f83d9ab, 0x5be0cd19⟩

/-- First block of a chunk. -/
def chunkStart : UInt32 := 1

/-- Last block of a chunk. -/
def chunkEnd : UInt32 := 2

/-- An inner node of the tree. -/
def parent : UInt32 := 4

/-- The last compression, whose output is the digest. -/
def root : UInt32 := 8

/-- Mixes two message words into four words of the state. -/
@[inline] def mix (a b c d x y : UInt32) : UInt32 × UInt32 × UInt32 × UInt32 :=
  let a := a + b + x
  let d := rotr32 (d ^^^ a) 16
  let c := c + d
  let b := rotr32 (b ^^^ c) 12
  let a := a + b + y
  let d := rotr32 (d ^^^ a) 8
  let c := c + d
  let b := rotr32 (b ^^^ c) 7
  (a, b, c, d)

/-- Mixes the message into the columns of the state, then into its diagonals. -/
def round (s m : Block) : Block :=
  let (v0, v4, v8, v12) := mix s.v0 s.v4 s.v8 s.v12 m.v0 m.v1
  let (v1, v5, v9, v13) := mix s.v1 s.v5 s.v9 s.v13 m.v2 m.v3
  let (v2, v6, v10, v14) := mix s.v2 s.v6 s.v10 s.v14 m.v4 m.v5
  let (v3, v7, v11, v15) := mix s.v3 s.v7 s.v11 s.v15 m.v6 m.v7
  let (v0, v5, v10, v15) := mix v0 v5 v10 v15 m.v8 m.v9
  let (v1, v6, v11, v12) := mix v1 v6 v11 v12 m.v10 m.v11
  let (v2, v7, v8, v13) := mix v2 v7 v8 v13 m.v12 m.v13
  let (v3, v4, v9, v14) := mix v3 v4 v9 v14 m.v14 m.v15
  ⟨v0, v1, v2, v3, v4, v5, v6, v7, v8, v9, v10, v11, v12, v13, v14, v15⟩

/-- The order in which the next round reads the message words. -/
def Block.permute (m : Block) : Block :=
  ⟨m.v2, m.v6, m.v3, m.v10, m.v7, m.v0, m.v4, m.v13,
    m.v1, m.v11, m.v12, m.v5, m.v9, m.v14, m.v15, m.v8⟩

def rounds : (n : Nat) → (s m : Block) → Block
  | 0, s, _ => s
  | n + 1, s, m => rounds n (round s m) m.permute

/-- The new chaining value of a block of `len` bytes under `flags`. -/
def compress (cv : Words) (m : Block) (counter : UInt64) (len flags : UInt32) : Words :=
  let s := rounds 7 ⟨cv.w0, cv.w1, cv.w2, cv.w3, cv.w4, cv.w5, cv.w6, cv.w7, iv.w0, iv.w1, iv.w2,
    iv.w3, counter.toUInt32, (counter >>> 32).toUInt32, len, flags⟩ m
  ⟨s.v0 ^^^ s.v8, s.v1 ^^^ s.v9, s.v2 ^^^ s.v10, s.v3 ^^^ s.v11, s.v4 ^^^ s.v12, s.v5 ^^^ s.v13,
    s.v6 ^^^ s.v14, s.v7 ^^^ s.v15⟩

def Block.read (m : ByteArray) (i : Nat) : Block :=
  let w (k : Nat) : UInt32 := word32LE m (i + 4 * k)
  ⟨w 0, w 1, w 2, w 3, w 4, w 5, w 6, w 7, w 8, w 9, w 10, w 11, w 12, w 13, w 14, w 15⟩

/-- The last compression of a subtree, held back until it is known whether the subtree is the
whole tree. -/
structure Pending where
  cv : Words
  block : Block
  counter : UInt64
  len : UInt32
  flags : UInt32

def Pending.chainingValue (p : Pending) : Words :=
  compress p.cv p.block p.counter p.len p.flags

def Pending.rootValue (p : Pending) : Words :=
  compress p.cv p.block 0 p.len (p.flags ||| root)

/-- The chain of the `size` bytes from `i` on, at most 1024. Only the last block may be short. -/
def chunk (m : ByteArray) (counter : UInt64) (cv : Words) (start : UInt32) (i size : Nat) :
    Pending :=
  if size ≤ 64 then
    ⟨cv, Block.read (m.extract i (i + size)) 0, counter, UInt32.ofNat size, start ||| chunkEnd⟩
  else
    chunk m counter (compress cv (Block.read m i) counter 64 start) 0 (i + 64) (size - 64)
termination_by size

/-- The size of the left subtree of more than 1024 bytes: the largest power of two times 1024
that leaves something to the right. -/
def leftSize (size : Nat) : Nat :=
  2 ^ (size - 1).log2

theorem leftSize_lt {size : Nat} (h : 1024 < size) : leftSize size < size := by
  have := Nat.log2_self_le (n := size - 1) (by omega)
  unfold leftSize
  omega

theorem leftSize_pos (size : Nat) : 0 < leftSize size := Nat.two_pow_pos _

/-- The tree of the `size` bytes from `i` on. -/
def subtree (m : ByteArray) (i size : Nat) : Pending :=
  if _h : size ≤ 1024 then chunk m (UInt64.ofNat (i / 1024)) iv chunkStart i size
  else
    let left := (subtree m i (leftSize size)).chainingValue
    let right := (subtree m (i + leftSize size) (size - leftSize size)).chainingValue
    ⟨iv, ⟨left.w0, left.w1, left.w2, left.w3, left.w4, left.w5, left.w6, left.w7, right.w0,
      right.w1, right.w2, right.w3, right.w4, right.w5, right.w6, right.w7⟩, 0, 64, parent⟩
termination_by size
decreasing_by
  · exact leftSize_lt (by omega)
  · have := leftSize_pos size
    omega

def digest (message : Bytes) : Vector UInt8 32 :=
  let m := message.toByteArray
  let v := (subtree m 0 m.size).rootValue
  let words := [v.w7, v.w6, v.w5, v.w4, v.w3, v.w2, v.w1, v.w0]
  Bytes.vectorLE 32 (words.foldl (fun n w => 2 ^ 32 * n + w.toNat) 0)

end KernelWallet.Blake3
