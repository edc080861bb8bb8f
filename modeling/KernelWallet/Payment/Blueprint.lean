import KernelWallet.Address.Mix
import KernelWallet.Ghost.Keys
import KernelWallet.Payment.Error
import KernelWallet.Transaction.Session

/-! The blueprint of a payment: the outputs it spends and the outputs it makes, in final order. What
it lacks are one-time keys. Those of user ids are fetched, those of XIN members are derived here. -/

namespace KernelWallet

/-- The identifier under which the keys of an output are asked for. The same hint gives the same
keys again. -/
def Uuid.ofHint (hint : String) (index : UInt8) : Uuid :=
  let digest := Hash.sha3 (Bytes.ofText hint ++ Bytes.ofText "OUTPUT" ++ [index])
  Uuid.stamp 3 ((digest.bytes.extract 0 16).cast (by decide))

/-- An unspent output with all that it takes to spend it. -/
structure Spendable where
  /-- The transaction that made the output. -/
  transaction : Hash
  /-- The position of the output in it. -/
  index : UInt8
  /-- The version of that transaction, which selects the hash function of the tweak. -/
  version : UInt8
  asset : Hash
  amount : Amount
  mask : Key
  keys : List Key
  /-- Whom the output was sent to, and where change goes. -/
  owner : MixAddress
  deriving DecidableEq

namespace Spendable

/-- The output as the chain records it. -/
def spent (s : Spendable) : SpentOutput :=
  { asset := s.asset, amount := s.amount, keys := s.keys,
    script := Script.ofThreshold s.owner.threshold }

/-- Whether this is output `index` of transaction `hash`. -/
def isOutpoint (s : Spendable) (hash : Hash) (index : UInt8) : Bool :=
  s.transaction = hash && s.index = index

def input (s : Spendable) : Input :=
  Input.ofOutput s.transaction s.index

end Spendable

structure PlannedOutput where
  address : MixAddress
  amount : Amount
  isChange : Bool
  deriving DecidableEq

/-- What is asked of the API for an output to user ids. -/
structure GhostKeyRequest where
  receivers : List Uuid
  index : UInt8
  hint : Uuid
  deriving DecidableEq

structure Blueprint where
  version : UInt8
  asset : Hash
  inputs : List Spendable
  outputs : List PlannedOutput
  extra : Bytes
  references : List Hash
  /-- What the identifiers of the requests are made of. -/
  hint : String
  deriving DecidableEq

namespace Blueprint

/-- The request for an output at a position, if it is to user ids. -/
def request? (hint : String) (out : PlannedOutput) (position : Nat) : Option GhostKeyRequest :=
  out.address.uuids?.map fun receivers =>
    let index := UInt8.ofNat position
    { receivers, index, hint := Uuid.ofHint hint index }

/-- The requests for keys, in output order. -/
def ghostKeyRequests (b : Blueprint) : List GhostKeyRequest :=
  b.outputs.zipIdx.filterMap fun (out, position) => request? b.hint out position

variable (E : Curve)

/-- Keys for XIN members. Only the spend key of a member counts; its view key is derived. -/
def deriveKeys (e : Entropy) (members : List Address) (index version : UInt8) :
    Except PaymentError (GhostKeys × Entropy) := do
  let addresses ← (members.mapM fun m => Address.ofPublicSpend E m.publicSpend).mapError .address
  (GhostKeys.create E e (addresses.map Address.receiver) index version).mapError .key

/-- The keys of an output at a position, and what is left of the fetched keys and of the random
bytes. As many keys as `expected` are fetched for the whole payment. -/
def outputKeys (version : UInt8) (expected : Nat) (fetched : List GhostKeys) (e : Entropy)
    (position : Nat) (members : MixMembers) :
    Except PaymentError (GhostKeys × List GhostKeys × Entropy) :=
  match members, fetched with
  | .uuid _, keys :: fetched => .ok (keys, fetched, e)
  | .uuid _, [] => .error (.ghostKeyCountMismatch expected position)
  | .xin members, fetched => do
    let (keys, e) ← deriveKeys E e members (UInt8.ofNat position) version
    return (keys, fetched, e)

/-- The outputs of a transaction from a position on. -/
def outputsFrom (version : UInt8) (expected : Nat) (fetched : List GhostKeys) (e : Entropy)
    (position : Nat) : List PlannedOutput → Except PaymentError (List Output)
  | [] => .ok []
  | out :: rest => do
    let (ghost, fetched, e) ← outputKeys E version expected fetched e position out.address.members
    if ghost.keys.length ≠ out.address.members.length then throw (.ghostKeyMismatch position)
    let made := Output.ofKeys out.amount ghost.keys ghost.mask
      (Script.ofThreshold out.address.threshold)
    return made :: (← outputsFrom version expected fetched e (position + 1) rest)

/-- The sealed transaction without signatures. The fetched keys answer `ghostKeyRequests` in
order, and all other keys come from the random bytes. -/
def build (b : Blueprint) (fetched : List GhostKeys) (e : Entropy) :
    Except PaymentError Session := do
  let expected := b.outputs.countP (·.address.uuids?.isSome)
  if fetched.length ≠ expected then throw (.ghostKeyCountMismatch expected fetched.length)
  let outputs ← outputsFrom E b.version expected fetched e 0 b.outputs
  let tx : Transaction :=
    { version := b.version, asset := b.asset, inputs := b.inputs.map Spendable.input, outputs,
      references := b.references, extra := b.extra,
      signatures := .groups (List.replicate b.inputs.length SignerMap.empty) }
  match (Session.sealBody E).run (Session.draft tx) with
  | .ok _ session => return session
  | .error e _ => throw (.transaction e)

end Blueprint

end KernelWallet
