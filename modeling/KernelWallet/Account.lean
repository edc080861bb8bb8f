import KernelWallet.Address.Xin

/-! The private keys of an account and the address that belongs to them. -/

namespace KernelWallet

structure Account where
  privateView : Key
  privateSpend : Key
  address : Address
  deriving DecidableEq

namespace Account

variable (E : Curve)

def ofScalars (spend view : Scalar) : Account where
  privateView := Key.ofScalar view
  privateSpend := Key.ofScalar spend
  address := ⟨Key.ofBaseMultiple E spend, Key.ofBaseMultiple E view⟩

/-- The account of both private keys, which have to be canonical scalars. -/
def ofKeys (privateSpend privateView : Key) : Except AddressError Account := do
  let spend ← privateSpend.scalar.mapError .key
  let view ← privateView.scalar.mapError .key
  return ofScalars E spend view

/-- The account whose view scalar is derived from the public spend key. -/
def ofSpendScalar (spend : Scalar) : Account :=
  ofScalars E spend (Key.viewScalar (Key.ofBaseMultiple E spend))

def ofPrivateSpend (privateSpend : Key) : Except AddressError Account := do
  return ofSpendScalar E (← privateSpend.scalar.mapError .key)

def random (e : Entropy) : Account × Entropy :=
  let (seed, e) := e.draw 64
  (ofSpendScalar E (Scalar.ofWide seed.toList), e)

/-- A text that shows the address and none of the private keys. -/
def redacted (a : Account) : String :=
  s!"AccountKey \x7b address: \"{a.address.toText}\", .. \x7d"

end Account

end KernelWallet
