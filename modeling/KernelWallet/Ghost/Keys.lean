import KernelWallet.Ghost.Tweak

/-! One-time keys of outputs. The sender draws a scalar `r` and publishes the mask `R = r B`; with
the receiver's public view `A = a B` both sides know the point `r A = a R`, whose tweak `x` shifts
the receiver's public spend `B` to the key `x B + B` that only the receiver can spend from. -/

namespace KernelWallet

namespace Ghost

variable (E : Curve)

/-- The tweak between a scalar and a point. -/
def sharedTweak (s : Scalar) (p : E.Point) (index version : UInt8) : Scalar :=
  tweak (E.compress (E.smul s p)) index (HashFamily.ofVersion version)

/-- The key of output `index` as the sender computes it. -/
def publicKey (r publicView publicSpend : Key) (index version : UInt8) : Except KeyError Key := do
  let r ← r.scalar
  let view ← publicView.point E
  let x := sharedTweak E r view index version
  let spend ← publicSpend.point E
  return Key.ofPoint E (E.add (E.mulBase x) spend)

/-- The scalar that spends output `index`, as the receiver computes it. -/
def privateKey (mask privateView privateSpend : Key) (index version : UInt8) :
    Except KeyError Key := do
  let a ← privateView.scalar
  let r ← mask.point E
  let x := sharedTweak E a r index version
  let b ← privateSpend.scalar
  return Key.ofScalar (x + b)

/-- A key with its tweak taken off: the public spend key of the receiver, if the view key is
theirs. -/
def spendKey (key privateView mask : Key) (index version : UInt8) : Except KeyError Key := do
  let a ← privateView.scalar
  let r ← mask.point E
  let x := sharedTweak E a r index version
  let p ← key.point E
  return Key.ofPoint E (E.sub p (E.mulBase x))

end Ghost

/-- The mask of an output and its keys, one to a receiver. -/
structure GhostKeys where
  mask : Key
  keys : List Key
  deriving DecidableEq

namespace GhostKeys

variable (E : Curve)

/-- Keys for receivers given as public view and public spend. One random scalar serves them all. -/
def create (e : Entropy) (receivers : List (Key × Key)) (index version : UInt8) :
    Except KeyError (GhostKeys × Entropy) := do
  let (r, e) := Key.random e
  let mask ← r.publicKey E
  let keys ← receivers.mapM fun (view, spend) => Ghost.publicKey E r view spend index version
  return (⟨mask, keys⟩, e)

/-- The position of the first key of a list that belongs to a receiver, counting from `slot`. -/
def findFrom (slot : Nat) (mask privateView publicSpend : Key) (index version : UInt8) :
    List Key → Except KeyError (Option Nat)
  | [] => .ok none
  | key :: rest => do
    if (← Ghost.spendKey E key privateView mask index version) = publicSpend then
      return some slot
    findFrom (slot + 1) mask privateView publicSpend index version rest

/-- The position of the first key that belongs to a receiver. A key before it that cannot be read
is an error. -/
def findOwned (g : GhostKeys) (privateView publicSpend : Key) (index version : UInt8) :
    Except KeyError (Option Nat) :=
  findFrom E 0 g.mask privateView publicSpend index version g.keys

end GhostKeys

end KernelWallet
