import KernelWallet.Text.Hex
import KernelWallet.Digest.Blake3
import KernelWallet.Digest.Sha3

/-! Keys, hashes and signatures: byte strings of a fixed width that are written as hex. -/

namespace KernelWallet

inductive KeyError where
  | invalidHex
  | lengthMismatch (expected got : Nat)
  | nonCanonicalScalar
  | invalidPoint
  | invalidSignature
  deriving DecidableEq, Repr

def KeyError.message : KeyError → String
  | .invalidHex => "Invalid hex encoding"
  | .lengthMismatch expected got => s!"Length mismatch: expected {expected}, got {got}"
  | .nonCanonicalScalar => "The bytes are not a canonical ed25519 scalar"
  | .invalidPoint => "The bytes do not decompress to an ed25519 point"
  | .invalidSignature => "Signature verification failed"

/-- A byte string of exactly `n` bytes. -/
def fixedBytes (n : Nat) (b : Bytes) : Except KeyError (Vector UInt8 n) :=
  match b.toVector? n with
  | some v => .ok v
  | none => .error (.lengthMismatch n b.length)

/-- The `n` bytes that a hex text stands for. -/
def fixedHex (n : Nat) (s : String) : Except KeyError (Vector UInt8 n) :=
  match Hex.decode? s with
  | some b => fixedBytes n b
  | none => .error .invalidHex

/-- Either a scalar (a private key) or the form of a point (a public key). The operation decides
how the bytes are read. -/
structure Key where
  bytes : Vector UInt8 32
  deriving DecidableEq, Repr

/-- A digest: the name of a transaction, an asset or a chain. -/
structure Hash where
  bytes : Vector UInt8 32
  deriving DecidableEq, Repr

/-- The form of a point followed by a scalar. -/
structure Signature where
  bytes : Vector UInt8 64
  deriving DecidableEq, Repr

/-- Whether some byte is not zero. -/
def hasValue {n : Nat} (v : Vector UInt8 n) : Bool :=
  v.any (· != 0)

namespace Key

def zero : Key := ⟨Vector.replicate 32 0⟩

instance : Inhabited Key := ⟨zero⟩

def toBytes (k : Key) : Bytes := k.bytes.toList

def toHex (k : Key) : String := Hex.encode k.toBytes

def ofBytes (b : Bytes) : Except KeyError Key :=
  return ⟨← fixedBytes 32 b⟩

/-- A key from exactly 64 hex digits. -/
def ofHexExact (s : String) : Except KeyError Key :=
  return ⟨← fixedHex 32 s⟩

end Key

namespace Hash

def zero : Hash := ⟨Vector.replicate 32 0⟩

instance : Inhabited Hash := ⟨zero⟩

def toBytes (h : Hash) : Bytes := h.bytes.toList

def toHex (h : Hash) : String := Hex.encode h.toBytes

def ofBytes (b : Bytes) : Except KeyError Hash :=
  return ⟨← fixedBytes 32 b⟩

def ofHex (s : String) : Except KeyError Hash :=
  return ⟨← fixedHex 32 s⟩

def sha3 (b : Bytes) : Hash := ⟨Sha3.digest b⟩

def blake3 (b : Bytes) : Hash := ⟨Blake3.digest b⟩

end Hash

namespace Signature

def zero : Signature := ⟨Vector.replicate 64 0⟩

instance : Inhabited Signature := ⟨zero⟩

def toBytes (s : Signature) : Bytes := s.bytes.toList

def toHex (s : Signature) : String := Hex.encode s.toBytes

def ofBytes (b : Bytes) : Except KeyError Signature :=
  return ⟨← fixedBytes 64 b⟩

def ofHex (s : String) : Except KeyError Signature :=
  return ⟨← fixedHex 64 s⟩

/-- The form of the nonce point. -/
def nonce (s : Signature) : Vector UInt8 32 :=
  (s.bytes.extract 0 32).cast (by decide)

/-- The encoded scalar. -/
def response (s : Signature) : Vector UInt8 32 :=
  (s.bytes.extract 32 64).cast (by decide)

def ofParts (nonce response : Vector UInt8 32) : Signature :=
  ⟨nonce ++ response⟩

end Signature

end KernelWallet
