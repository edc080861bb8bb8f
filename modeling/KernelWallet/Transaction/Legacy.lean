import KernelWallet.Msgpack.Reader
import KernelWallet.Msgpack.Writer
import KernelWallet.Transaction.Basic
import KernelWallet.Transaction.Error

/-! The msgpack form of versions 0 and 1: records with named fields. Signatures are a list for each
input without signers; the signer of a signature is its position, so only groups of signers
`0, 1, …, n - 1` can be written. -/

namespace KernelWallet.Legacy

open Msgpack

/-! ## Writing -/

def writeDeposit (d : Deposit) : Bytes :=
  writeRecord [("Chain", writeBin d.chain.toBytes), ("AssetKey", writeText d.assetKey),
    ("TransactionHash", writeText d.transaction), ("OutputIndex", writeNat d.index.toNat),
    ("Amount", writeBin d.amount.toBytes)]

def writeMint (m : Mint) : Bytes :=
  writeRecord [("Group", writeText m.group), ("Batch", writeNat m.batch.toNat),
    ("Amount", writeBin m.amount.toBytes)]

def writeInput (i : Input) : Bytes :=
  writeRecord [("Hash", writeBin i.hash.toBytes), ("Index", writeNat i.index.toNat),
    ("Genesis", writeBin i.genesis), ("Deposit", writeOption (i.deposit.map writeDeposit)),
    ("Mint", writeOption (i.mint.map writeMint))]

def writeWithdrawal (w : Withdrawal) : Bytes :=
  writeRecord [("Chain", writeBin w.chain.toBytes), ("AssetKey", writeText w.assetKey),
    ("Address", writeText w.address), ("Tag", writeText w.tag)]

/-- An output. The withdrawal is a field only where there is one. -/
def writeOutput (o : Output) : Bytes :=
  writeRecord ([("Type", writeNat o.kind.toByte.toNat), ("Amount", writeBin o.amount.toBytes),
    ("Keys", writeArray (o.keys.map fun k => writeBin k.toBytes)),
    ("Script", writeBin o.script.bytes), ("Mask", writeBin o.mask.toBytes)] ++
    (o.withdrawal.map fun w => ("Withdrawal", writeWithdrawal w)).toList)

/-- The signatures of a group, whose signers have to be the positions in it. -/
def writeGroup (g : SignerMap) : Except EncodeError Bytes :=
  let positions := (List.range g.entries.length).map UInt16.ofNat
  if g.entries.length < 2 ^ 16 ∧ g.signers = positions then
    .ok (writeArray (g.signatures.map fun s => writeBin s.toBytes))
  else .error .legacySignerIndices

def writeSignatures : Signatures → Except EncodeError Bytes
  | .groups gs => do return writeArray (← gs.mapM writeGroup)
  | .aggregated _ => .error .legacyAggregatedSignature

/-- A transaction with the written signatures, if there are any to write. -/
def writeWith (tx : Transaction) (signatures : Option Bytes) : Bytes :=
  writeRecord ([("Version", writeNat tx.version.toNat), ("Asset", writeBin tx.asset.toBytes),
    ("Inputs", writeArray (tx.inputs.map writeInput)),
    ("Outputs", writeArray (tx.outputs.map writeOutput)), ("Extra", writeBin tx.extra)] ++
    (signatures.map fun b => ("Signatures", b)).toList)

def write (tx : Transaction) : Except EncodeError Bytes := do
  return writeWith tx (some (← writeSignatures tx.signatures))

def writePayload (tx : Transaction) : Bytes :=
  writeWith tx none

/-! ## Records as they are read, before their fields are checked -/

structure RawDeposit where
  chain : Bytes
  assetKey : String
  transaction : String
  index : Nat
  amount : Bytes

structure RawMint where
  group : String
  batch : Nat
  amount : Bytes

structure RawInput where
  hash : Bytes
  index : Nat
  genesis : Bytes
  deposit : Option RawDeposit
  mint : Option RawMint

structure RawWithdrawal where
  chain : Bytes
  assetKey : String
  address : String
  tag : String

structure RawOutput where
  kind : Nat
  amount : Bytes
  keys : List Bytes
  script : Bytes
  mask : Bytes
  withdrawal : Option RawWithdrawal

structure RawTransaction where
  version : Nat
  asset : Bytes
  inputs : List RawInput
  outputs : List RawOutput
  extra : Bytes
  signatures : List (List Bytes)

def listOf? {α : Type} (read : Value → Option α) (v : Value) : Option (List α) := do
  (← v.list?).mapM read

def RawDeposit.ofValue? (v : Value) : Option RawDeposit := do
  let f ← Fields.ofValue? ["Chain", "AssetKey", "TransactionHash", "OutputIndex", "Amount"] 0 v
  let chain ← f.required "Chain" Value.bytes?
  let assetKey ← f.required "AssetKey" Value.text?
  let transaction ← f.required "TransactionHash" Value.text?
  let index ← f.required "OutputIndex" (Value.nat? (2 ^ 64))
  let amount ← f.required "Amount" Value.bytes?
  return { chain, assetKey, transaction, index, amount }

def RawMint.ofValue? (v : Value) : Option RawMint := do
  let f ← Fields.ofValue? ["Group", "Batch", "Amount"] 0 v
  let group ← f.required "Group" Value.text?
  let batch ← f.required "Batch" (Value.nat? (2 ^ 64))
  let amount ← f.required "Amount" Value.bytes?
  return { group, batch, amount }

def RawInput.ofValue? (v : Value) : Option RawInput := do
  let f ← Fields.ofValue? ["Hash", "Index", "Genesis", "Deposit", "Mint"] 0 v
  let hash ← f.required "Hash" Value.bytes?
  let index ← f.required "Index" (Value.nat? (2 ^ 64))
  let genesis ← f.required "Genesis" Value.bytes?
  let deposit ← f.optional "Deposit" RawDeposit.ofValue?
  let mint ← f.optional "Mint" RawMint.ofValue?
  return { hash, index, genesis, deposit, mint }

def RawWithdrawal.ofValue? (v : Value) : Option RawWithdrawal := do
  let f ← Fields.ofValue? ["Chain", "AssetKey", "Address", "Tag"] 0 v
  let chain ← f.required "Chain" Value.bytes?
  let assetKey ← f.required "AssetKey" Value.text?
  let address ← f.required "Address" Value.text?
  let tag ← f.required "Tag" Value.text?
  return { chain, assetKey, address, tag }

def RawOutput.ofValue? (v : Value) : Option RawOutput := do
  let f ← Fields.ofValue? ["Type", "Amount", "Keys", "Script", "Mask", "Withdrawal"] 1 v
  let kind ← f.required "Type" (Value.nat? 256)
  let amount ← f.required "Amount" Value.bytes?
  let keys ← f.required "Keys" (listOf? Value.bytes?)
  let script ← f.required "Script" Value.bytes?
  let mask ← f.required "Mask" Value.bytes?
  let withdrawal ← f.optional "Withdrawal" RawWithdrawal.ofValue?
  return { kind, amount, keys, script, mask, withdrawal }

def RawTransaction.ofValue? (v : Value) : Option RawTransaction := do
  let f ← Fields.ofValue? ["Version", "Asset", "Inputs", "Outputs", "Extra", "Signatures"] 1 v
  let version ← f.required "Version" (Value.nat? 256)
  let asset ← f.required "Asset" Value.bytes?
  let inputs ← f.required "Inputs" (listOf? RawInput.ofValue?)
  let outputs ← f.required "Outputs" (listOf? RawOutput.ofValue?)
  let extra ← f.required "Extra" Value.bytes?
  let signatures ← f.optional "Signatures" (listOf? (listOf? Value.bytes?))
  return { version, asset, inputs, outputs, extra, signatures := signatures.getD [] }

/-! ## Checking the fields -/

def fixed (n : Nat) (b : Bytes) : Except DecodeError (Vector UInt8 n) :=
  match b.toVector? n with
  | some v => .ok v
  | none => .error (.invalidLength b.length n)

def readAmount (b : Bytes) : Except DecodeError Amount :=
  (Amount.ofBytes b).mapError .amount

def RawDeposit.check (d : RawDeposit) : Except DecodeError Deposit := do
  let chain ← fixed 32 d.chain
  let amount ← readAmount d.amount
  return { chain := ⟨chain⟩, assetKey := d.assetKey, transaction := d.transaction,
           index := UInt64.ofNat d.index, amount }

def RawMint.check (m : RawMint) : Except DecodeError Mint := do
  let amount ← readAmount m.amount
  return { group := m.group, batch := UInt64.ofNat m.batch, amount }

def RawInput.check (i : RawInput) : Except DecodeError Input := do
  if 256 ≤ i.index then throw (.invalidInputIndex (UInt64.ofNat i.index))
  let deposit ← i.deposit.mapM RawDeposit.check
  let mint ← i.mint.mapM RawMint.check
  let hash ← fixed 32 i.hash
  return { hash := ⟨hash⟩, index := UInt8.ofNat i.index, genesis := i.genesis, deposit, mint }

def RawWithdrawal.check (w : RawWithdrawal) : Except DecodeError Withdrawal := do
  let chain ← fixed 32 w.chain
  return { chain := ⟨chain⟩, assetKey := w.assetKey, address := w.address, tag := w.tag }

def RawOutput.check (o : RawOutput) : Except DecodeError Output := do
  let withdrawal ← o.withdrawal.mapM RawWithdrawal.check
  let some kind := OutputType.ofByte? (UInt8.ofNat o.kind)
    | throw (.unknownOutputType (UInt8.ofNat o.kind))
  let amount ← readAmount o.amount
  let keys ← o.keys.mapM fun k => return Key.mk (← fixed 32 k)
  let mask ← fixed 32 o.mask
  return { kind, amount, keys, mask := ⟨mask⟩, script := ⟨o.script⟩, withdrawal }

/-- The map of a list of signatures. Signers are 16-bit numbers, so the positions of a longer list
start again at zero. -/
def checkGroup (sigs : List Bytes) : Except DecodeError SignerMap := do
  let sigs ← sigs.mapM fun s => return Signature.mk (← fixed 64 s)
  return SignerMap.ofList (sigs.zipIdx.map fun (s, i) => (UInt16.ofNat i, s))

def RawTransaction.check (t : RawTransaction) : Except DecodeError Transaction := do
  let inputs ← t.inputs.mapM RawInput.check
  let outputs ← t.outputs.mapM RawOutput.check
  let groups ← t.signatures.mapM checkGroup
  let asset ← fixed 32 t.asset
  return { version := UInt8.ofNat t.version, asset := ⟨asset⟩, inputs, outputs, extra := t.extra,
           signatures := .groups groups }

/-- The transaction of bytes without a header. The whole record is read first, then nothing may
follow it, then the version has to be one of this form, then the fields are checked in order. -/
def read (b : Bytes) : Except DecodeError Transaction :=
  match readValue.run b with
  | none => .error .msgpack
  | some (v, rest) =>
    match RawTransaction.ofValue? v with
    | none => .error .msgpack
    | some t =>
      if rest ≠ [] then .error (.trailingBytes rest.length)
      else if Version.binary.toNat ≤ t.version then
        .error (.unsupportedVersion (UInt8.ofNat t.version))
      else t.check

end KernelWallet.Legacy
