import KernelWallet.Amount
import KernelWallet.OutputType
import KernelWallet.Script
import KernelWallet.Transaction.Limits
import KernelWallet.Transaction.Signers

/-! Kernel transactions of every version. -/

namespace KernelWallet

/-- A deposit seen on another chain. -/
structure Deposit where
  chain : Hash
  assetKey : String
  transaction : String
  index : UInt64
  amount : Amount
  deriving DecidableEq

structure Mint where
  group : String
  batch : UInt64
  amount : Amount
  deriving DecidableEq

/-- What a transaction takes its value from. One of four shapes has a meaning: the output `index`
of transaction `hash`, genesis data, a deposit, or a mint. -/
structure Input where
  hash : Hash
  index : UInt8
  genesis : Bytes := []
  deposit : Option Deposit := none
  mint : Option Mint := none
  deriving DecidableEq

namespace Input

def ofOutput (hash : Hash) (index : UInt8) : Input := { hash, index }

def ofGenesis (genesis : Bytes) : Input := { hash := Hash.zero, index := 0, genesis }

def ofDeposit (d : Deposit) : Input := { hash := Hash.zero, index := 0, deposit := some d }

def ofMint (m : Mint) : Input := { hash := Hash.zero, index := 0, mint := some m }

def isOutput (i : Input) : Bool :=
  i.genesis.isEmpty && i.deposit.isNone && i.mint.isNone

end Input

/-- Where a withdrawal goes. The chain and the asset key are not written from version 5 on. -/
structure Withdrawal where
  chain : Hash
  assetKey : String
  address : String
  tag : String
  deriving DecidableEq

structure Output where
  kind : OutputType
  amount : Amount
  keys : List Key
  mask : Key
  script : Script
  withdrawal : Option Withdrawal := none
  deriving DecidableEq

namespace Output

/-- A plain output for keys under a script. -/
def ofKeys (amount : Amount) (keys : List Key) (mask : Key) (script : Script) : Output :=
  { kind := .script, amount, keys, mask, script }

def ofWithdrawal (amount : Amount) (w : Withdrawal) : Output :=
  { kind := .withdrawalSubmit, amount, keys := [], mask := Key.zero, script := Script.empty,
    withdrawal := some w }

end Output

/-- The signatures of each input by signer, or one that stands for all. -/
inductive Signatures where
  | groups (groups : List SignerMap)
  | aggregated (signature : AggregatedSignature)
  deriving DecidableEq

namespace Signatures

def none : Signatures := groups []

def isEmpty : Signatures → Bool
  | groups gs => gs.all SignerMap.isEmpty
  | aggregated _ => false

end Signatures

structure Transaction where
  version : UInt8
  asset : Hash
  inputs : List Input := []
  outputs : List Output := []
  references : List Hash := []
  extra : Bytes := []
  signatures : Signatures := Signatures.none
  deriving DecidableEq

namespace Transaction

def payload (tx : Transaction) : Transaction :=
  { tx with signatures := Signatures.none }

/-- The most bytes of extra the transaction may carry. From version 4 on, a transaction in the
storage asset whose first output is plain with one key and threshold one buys a step of storage
for every step price in that output. -/
def extraLimit (tx : Transaction) : Nat :=
  match tx.outputs with
  | [] => Limit.extra
  | out :: _ =>
    let step := Amount.ofUInt64 Limit.stepPrice
    if Version.references ≤ tx.version ∧ tx.asset = Hash.xinAsset ∧ out.kind = .script ∧
        out.keys.length = 1 ∧ out.script = Script.ofThreshold 1 ∧ step.units ≤ out.amount.units then
      min (out.amount.count step * Limit.storageStep) Limit.storageCapacity
    else Limit.extra

end Transaction

end KernelWallet
