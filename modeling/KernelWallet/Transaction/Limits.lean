import KernelWallet.Key.Basic

/-! Versions of transactions, markers of their binary form, and the limits on their parts. -/

namespace KernelWallet

namespace Version

/-- First version in the big-endian form; earlier ones are msgpack. -/
def binary : UInt8 := 2

/-- First version whose transactions are named by their BLAKE3 digest. -/
def blake3 : UInt8 := 3

/-- First version with references and an extra length of four bytes. -/
def references : UInt8 := 4

/-- First version that leaves the chain and asset key out of withdrawals. -/
def shortWithdrawals : UInt8 := 5

def latest : UInt8 := 5

/-- Whether a version is written in the big-endian form. -/
def isBinary (v : UInt8) : Bool :=
  binary ≤ v && v ≤ latest

end Version

namespace Marker

/-- Opens a transaction and every optional part that is there. -/
def present : Bytes := [0x77, 0x77]

/-- Stands for an optional part that is not there. -/
def absent : Bytes := [0x00, 0x00]

/-- Opens an aggregated signature, in the place of a number of groups. -/
def aggregate : UInt16 := 0xFFFF

/-- Follows `aggregate`. -/
def aggregateKind : UInt16 := 0xFF01

/-- The signers follow as a bitmap. -/
def bitmap : UInt8 := 0

/-- The signers follow as a list. -/
def list : UInt8 := 1

end Marker

namespace Limit

def slices : Nat := 256

def references : Nat := 2

/-- The most bytes of extra when no storage is paid for. -/
def extra : Nat := 256

/-- The bytes of extra that one storage step buys. -/
def storageStep : Nat := 1024

/-- The most bytes of extra whatever is paid. -/
def storageCapacity : Nat := 4 * 1024 * 1024

/-- The price of one storage step in units. -/
def stepPrice : UInt64 := 100000

end Limit

/-- The asset in which storage is paid. -/
def Hash.xinAsset : Hash :=
  ⟨#v[0xa9, 0x9c, 0x2e, 0x0e, 0x2b, 0x1d, 0xa4, 0xd6, 0x48, 0x75, 0x5e, 0xf1,
    0x9b, 0xd9, 0x51, 0x39, 0xac, 0xbb, 0xe6, 0x56, 0x4c, 0xfb, 0x06, 0xde,
    0xc7, 0xcd, 0x34, 0x93, 0x1c, 0xa7, 0x2c, 0xdc]⟩

end KernelWallet
