import KernelWallet.Instances

/-! Byte strings and the numbers they spell. A byte string is a list of bytes; a value of a fixed
width is a vector, and every such value is cut from a list of exactly that length. -/

namespace KernelWallet

abbrev Bytes := List UInt8

namespace Bytes

/-- The number a byte string spells, most significant byte first. -/
def toNatBE (b : Bytes) : Nat :=
  b.foldl (fun n x => 256 * n + x.toNat) 0

/-- The number a byte string spells, least significant byte first. -/
def toNatLE (b : Bytes) : Nat :=
  b.foldr (fun x n => x.toNat + 256 * n) 0

/-- The low `width` bytes of `n`, least significant first. -/
def ofNatLE : (width n : Nat) → Bytes
  | 0, _ => []
  | width + 1, n => UInt8.ofNat n :: ofNatLE width (n / 256)

/-- The low `width` bytes of `n`, most significant first. -/
def ofNatBE (width n : Nat) : Bytes :=
  (ofNatLE width n).reverse

/-- How many bytes `n` takes without leading zeros; zero takes none. -/
def width (n : Nat) : Nat :=
  if n = 0 then 0 else n.log2 / 8 + 1

/-- The shortest byte string that spells `n`, most significant byte first. -/
def minimalBE (n : Nat) : Bytes :=
  ofNatBE (width n) n

@[simp] theorem length_ofNatLE (width n : Nat) : (ofNatLE width n).length = width := by
  induction width generalizing n with
  | zero => rfl
  | succ width ih => simp [ofNatLE, ih]

@[simp] theorem length_ofNatBE (width n : Nat) : (ofNatBE width n).length = width := by
  simp [ofNatBE]

theorem toNatLE_lt (b : Bytes) : toNatLE b < 256 ^ b.length := by
  induction b with
  | nil => simp [toNatLE]
  | cons x b ih =>
    have hx := x.toNat_lt
    simp only [toNatLE, List.foldr_cons, List.length_cons, Nat.pow_succ] at ih ⊢
    omega

theorem toNatBE_eq (b : Bytes) : toNatBE b = toNatLE b.reverse := by
  simp only [toNatBE, toNatLE, List.foldr_reverse, Nat.add_comm]

theorem toNatBE_lt (b : Bytes) : toNatBE b < 256 ^ b.length := by
  simpa only [toNatBE_eq, List.length_reverse] using toNatLE_lt b.reverse

theorem toNatBE_lt_of_length_le {b : Bytes} {width : Nat} (h : b.length ≤ width) :
    toNatBE b < 256 ^ width :=
  Nat.lt_of_lt_of_le (toNatBE_lt b) (Nat.pow_le_pow_right (by decide) h)

def ofText (s : String) : Bytes :=
  s.toUTF8.data.toList

/-- The text whose UTF-8 bytes these are, if they are the bytes of one. -/
def toText? (b : Bytes) : Option String :=
  String.fromUTF8? b.toByteArray

/-- A byte string of exactly `n` bytes as a vector. -/
def toVector? (n : Nat) (b : Bytes) : Option (Vector UInt8 n) :=
  if h : b.length = n then some ⟨b.toArray, by simpa using h⟩ else none

/-- The first `count` pieces of `size` bytes each. -/
def chunks (size : Nat) : (count : Nat) → Bytes → List Bytes
  | 0, _ => []
  | count + 1, b => b.take size :: chunks size count (b.drop size)

/-- The low `width` bytes of `n` as a vector, least significant first. -/
def vectorLE (width n : Nat) : Vector UInt8 width :=
  ⟨(ofNatLE width n).toArray, by simp⟩

end Bytes

/-- `n` elements off the front of the bytes, after those already read, which are held last first. -/
def readFrom {m : Type → Type} [Monad m] {α : Type} (read : StateT Bytes m α) :
    (n : Nat) → (done : List α) → StateT Bytes m (List α)
  | 0, done => return done.reverse
  | n + 1, done => do readFrom read n ((← read) :: done)

end KernelWallet
