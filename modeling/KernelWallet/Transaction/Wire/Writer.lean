import KernelWallet.Transaction.Basic
import KernelWallet.Transaction.Error

/-! The big-endian form of versions 2 to 5: the fields of a transaction in order, lists behind
their length, optional parts behind a marker. A length that does not fit its width is an error that
names the field. -/

namespace KernelWallet.Wire

def writeCount (field : String) (n : Nat) : Except EncodeError Bytes :=
  if n < 2 ^ 16 then .ok (Bytes.ofNatBE 2 n) else .error (.tooLong field n)

def writeBytes (field : String) (b : Bytes) : Except EncodeError Bytes := do
  return (← writeCount field b.length) ++ b

def writeText (field : String) (s : String) : Except EncodeError Bytes :=
  writeBytes field (Bytes.ofText s)

def writeUInt16 (n : UInt16) : Bytes := Bytes.ofNatBE 2 n.toNat

def writeUInt64 (n : UInt64) : Bytes := Bytes.ofNatBE 8 n.toNat

def writeAmount (a : Amount) : Except EncodeError Bytes :=
  writeBytes "amount" a.toBytes

/-- The elements one after another. -/
def writeAll {α : Type} (write : α → Except EncodeError Bytes) (l : List α) :
    Except EncodeError Bytes := do
  return (← l.mapM write).flatten

/-- An optional part behind the marker that says whether it is there. -/
def writeOption {α : Type} (write : α → Except EncodeError Bytes) :
    Option α → Except EncodeError Bytes
  | none => .ok Marker.absent
  | some a => do return Marker.present ++ (← write a)

def writeDeposit (d : Deposit) : Except EncodeError Bytes := do
  let assetKey ← writeText "asset_key" d.assetKey
  let transaction ← writeText "transaction" d.transaction
  let amount ← writeAmount d.amount
  return d.chain.toBytes ++ assetKey ++ transaction ++ writeUInt64 d.index ++ amount

def writeMint (m : Mint) : Except EncodeError Bytes := do
  let group ← writeText "group" m.group
  let amount ← writeAmount m.amount
  return group ++ writeUInt64 m.batch ++ amount

def writeInput (i : Input) : Except EncodeError Bytes := do
  let genesis ← writeBytes "genesis" i.genesis
  let deposit ← writeOption writeDeposit i.deposit
  let mint ← writeOption writeMint i.mint
  return i.hash.toBytes ++ writeUInt16 i.index.toUInt16 ++ genesis ++ deposit ++ mint

/-- The chain and the asset key of a withdrawal, where they are written. -/
def writeSource (version : UInt8) (w : Withdrawal) : Except EncodeError Bytes :=
  if version < Version.shortWithdrawals then do
    return w.chain.toBytes ++ (← writeText "asset_key" w.assetKey)
  else .ok []

def writeWithdrawal (version : UInt8) (w : Withdrawal) : Except EncodeError Bytes := do
  let source ← writeSource version w
  let address ← writeText "address" w.address
  let tag ← writeText "tag" w.tag
  return source ++ address ++ tag

def writeOutput (version : UInt8) (o : Output) : Except EncodeError Bytes := do
  let amount ← writeAmount o.amount
  let count ← writeCount "keys" o.keys.length
  let script ← writeBytes "script" o.script.bytes
  let withdrawal ← writeOption (writeWithdrawal version) o.withdrawal
  return [0, o.kind.toByte] ++ amount ++ count ++ o.keys.flatMap Key.toBytes ++ o.mask.toBytes ++
    script ++ withdrawal

def writeReferences (version : UInt8) (refs : List Hash) : Except EncodeError Bytes :=
  if Version.references ≤ version then do
    return (← writeCount "references" refs.length) ++ refs.flatMap Hash.toBytes
  else pure []

/-- The extra behind its length, in four bytes where there are references and in two before. -/
def writeExtra (version : UInt8) (extra : Bytes) : Except EncodeError Bytes :=
  if Version.references ≤ version then
    if extra.length < 2 ^ 32 then .ok (Bytes.ofNatBE 4 extra.length ++ extra)
    else .error (.tooLong "extra" extra.length)
  else writeBytes "extra" extra

def writeGroup (g : SignerMap) : Except EncodeError Bytes := do
  let count ← writeCount "signers" g.entries.length
  return count ++ g.entries.flatMap fun (signer, sig) => writeUInt16 signer ++ sig.toBytes

/-- The signers of an aggregated signature in the shorter of two layouts. -/
def writeSigners (s : SignerSet) : Except EncodeError Bytes :=
  if s.isSparse then do
    return [Marker.list] ++ (← writeCount "signers" s.toList.length) ++
      s.toList.flatMap writeUInt16
  else do return [Marker.bitmap] ++ (← writeBytes "signers" s.bitmap)

/-- The signatures. As many groups as the aggregate marker says cannot be written, since they would
read back as an aggregated signature. -/
def writeSignatures : Signatures → Except EncodeError Bytes
  | .groups gs =>
    if gs.length < Marker.aggregate.toNat then do
      return Bytes.ofNatBE 2 gs.length ++ (← writeAll writeGroup gs)
    else .error (.tooLong "signatures" gs.length)
  | .aggregated a => do
    return writeUInt16 Marker.aggregate ++ writeUInt16 Marker.aggregateKind ++
      a.signature.toBytes ++ (← writeSigners a.signers)

/-- The fields behind the header. -/
def writeBody (tx : Transaction) : Except EncodeError Bytes := do
  let inputCount ← writeCount "inputs" tx.inputs.length
  let inputs ← writeAll writeInput tx.inputs
  let outputCount ← writeCount "outputs" tx.outputs.length
  let outputs ← writeAll (writeOutput tx.version) tx.outputs
  let references ← writeReferences tx.version tx.references
  let extra ← writeExtra tx.version tx.extra
  let signatures ← writeSignatures tx.signatures
  return tx.asset.toBytes ++ inputCount ++ inputs ++ outputCount ++ outputs ++ references ++
    extra ++ signatures

/-- The bytes that open a transaction of a version. -/
def header (version : UInt8) : Bytes :=
  Marker.present ++ [0, version]

def write (tx : Transaction) : Except EncodeError Bytes :=
  if Version.isBinary tx.version then do return header tx.version ++ (← writeBody tx)
  else .error (.unsupportedVersion tx.version)

end KernelWallet.Wire
