import KernelWallet.Curve.Basic
import KernelWallet.Digest.Sha512
import KernelWallet.Entropy
import KernelWallet.Key.Basic

/-! Keys read as scalars and as points, and the arithmetic on them. Where an operation reads
several keys, the first of them in reading order that cannot be read gives the error. -/

namespace KernelWallet

namespace Scalar

/-- The scalar that 64 uniform bytes leave modulo the order. -/
def ofWide (b : Bytes) : Scalar :=
  reduce b.toNatLE

/-- Clears the low three bits and the top bit and sets the bit below it. -/
def clamp (n : Nat) : Nat :=
  n % 2 ^ 254 / 8 * 8 + 2 ^ 254

/-- The signing scalar of an ed25519 seed: the clamped low half of its SHA-512 digest. -/
def ofSeed (seed : Bytes) : Scalar :=
  reduce (clamp (Bytes.toNatLE ((Sha512.digest seed).toList.take 32)))

end Scalar

namespace Key

def ofScalar (s : Scalar) : Key := ⟨s.toBytes⟩

/-- The key read as a canonical scalar. -/
def scalar (k : Key) : Except KeyError Scalar :=
  match Scalar.ofBytes? k.bytes with
  | some s => .ok s
  | none => .error .nonCanonicalScalar

def ofSeed64 (seed : Vector UInt8 64) : Key :=
  ofScalar (Scalar.ofWide seed.toList)

def ofEd25519Seed (seed : Vector UInt8 32) : Key :=
  ofScalar (Scalar.ofSeed seed.toList)

/-- A key from hex. 32 bytes are the key itself. 64 bytes are an ed25519 private key, a seed
followed by a public key, and stand for the seed's signing scalar. -/
def ofHex (s : String) : Except KeyError Key :=
  match Hex.decode? s with
  | none => .error .invalidHex
  | some b =>
    if b.length = 64 then .ok (ofScalar (Scalar.ofSeed (b.take 32))) else ofBytes b

def random (e : Entropy) : Key × Entropy :=
  let (seed, e) := e.draw 64
  (ofSeed64 seed, e)

/-- The private view scalar that anyone can derive from a public spend key. -/
def viewScalar (publicSpend : Key) : Scalar :=
  let h := (Hash.sha3 publicSpend.toBytes).toBytes
  Scalar.ofWide (h ++ h)

/-- The key of `viewScalar`. -/
def viewKey (publicSpend : Key) : Key :=
  ofScalar (viewScalar publicSpend)

variable (E : Curve)

def ofPoint (p : E.Point) : Key := ⟨E.compress p⟩

def point (k : Key) : Except KeyError E.Point :=
  match E.decompress k.bytes with
  | some p => .ok p
  | none => .error .invalidPoint

def isPoint (k : Key) : Bool :=
  (E.decompress k.bytes).isSome

def ofBaseMultiple (s : Scalar) : Key :=
  ofPoint E (E.mulBase s)

def publicKey (k : Key) : Except KeyError Key :=
  return ofBaseMultiple E (← k.scalar)

def scalarMult (scalarKey pointKey : Key) : Except KeyError Key := do
  let s ← scalarKey.scalar
  let p ← pointKey.point E
  return ofPoint E (E.smul s p)

def addPoints (p q : Key) : Except KeyError Key := do
  let p ← p.point E
  let q ← q.point E
  return ofPoint E (E.add p q)

def subPoints (p q : Key) : Except KeyError Key := do
  let p ← p.point E
  let q ← q.point E
  return ofPoint E (E.sub p q)

end Key

end KernelWallet
