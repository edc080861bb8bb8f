import KernelWallet.Key.Arithmetic

/-! The scalar that sender and receiver of an output both derive from their shared point. -/

namespace KernelWallet

/-- The hash function behind the tweak. -/
inductive HashFamily where
  | sha3
  | blake3
  deriving DecidableEq, Repr

namespace HashFamily

/-- Outputs of version 5 and later use BLAKE3. -/
def ofVersion (version : UInt8) : HashFamily :=
  if version < 5 then .sha3 else .blake3

def hash : HashFamily → Bytes → Hash
  | .sha3, b => Hash.sha3 b
  | .blake3, b => Hash.blake3 b

/-- The digest followed by the digest of the digest, modulo the order. -/
def doubleHash (family : HashFamily) (b : Bytes) : Scalar :=
  let h := family.hash b
  Scalar.ofWide (h.toBytes ++ (family.hash h.toBytes).toBytes)

end HashFamily

/-- Seven bits to a byte, least significant first; every byte but the last has its top bit set. -/
def uvarint (n : Nat) : Bytes :=
  if n < 128 then [UInt8.ofNat n] else UInt8.ofNat (n % 128 + 128) :: uvarint (n / 128)
termination_by n

/-- The tweak of output `index` for a shared point in its 32-byte form. -/
def tweak (shared : Vector UInt8 32) (index : UInt8) (family : HashFamily) : Scalar :=
  let x := family.doubleHash (shared.toList ++ uvarint index.toNat)
  family.doubleHash x.toBytes.toList

end KernelWallet
