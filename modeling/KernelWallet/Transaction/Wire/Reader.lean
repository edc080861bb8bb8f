import KernelWallet.Transaction.Basic
import KernelWallet.Transaction.Error
import KernelWallet.Transaction.Wire.Writer

/-! Reads the big-endian form. Every field has one accepted spelling, except that an amount may
have leading zeros. -/

namespace KernelWallet

/-- A reader takes what it reads off the front of the bytes that are left. -/
abbrev Reader := StateT Bytes (Except DecodeError)

namespace Wire

def take (n : Nat) : Reader Bytes := fun b =>
  let (front, rest) := b.splitAt n
  if front.length = n then .ok (front, rest) else .error (.unexpectedEof (n - front.length))

/-- The next `n` bytes as a value of that width. -/
def takeVector (n : Nat) : Reader (Vector UInt8 n) := fun b =>
  let (front, rest) := b.splitAt n
  match Bytes.toVector? n front with
  | some v => .ok (v, rest)
  | none => .error (.unexpectedEof (n - front.length))

def readNat (width : Nat) : Reader Nat :=
  return (← take width).toNatBE

def readUInt8 : Reader UInt8 :=
  return UInt8.ofNat (← readNat 1)

def readUInt16 : Reader UInt16 :=
  return UInt16.ofNat (← readNat 2)

def readUInt64 : Reader UInt64 :=
  return UInt64.ofNat (← readNat 8)

def readHash : Reader Hash :=
  return ⟨← takeVector 32⟩

def readKey : Reader Key :=
  return ⟨← takeVector 32⟩

def readSignature : Reader Signature :=
  return ⟨← takeVector 64⟩

def readBytes : Reader Bytes := do
  take (← readNat 2)

def readText : Reader String := do
  match Bytes.toText? (← readBytes) with
  | some s => return s
  | none => throw .invalidString

def readAmount : Reader Amount := do
  match Amount.ofBytes (← readBytes) with
  | .ok a => return a
  | .error e => throw (.amount e)

def readAll {α : Type} (n : Nat) (read : Reader α) : Reader (List α) :=
  readFrom read n []

def readList {α : Type} (read : Reader α) : Reader (List α) := do
  readAll (← readNat 2) read

def readOption {α : Type} (read : Reader α) : Reader (Option α) := do
  let marker ← take 2
  if marker = Marker.present then return some (← read)
  else if marker = Marker.absent then return none
  else throw (.invalidPrefix (UInt16.ofNat marker.toNatBE))

def readDeposit : Reader Deposit := do
  let chain ← readHash
  let assetKey ← readText
  let transaction ← readText
  let index ← readUInt64
  let amount ← readAmount
  return { chain, assetKey, transaction, index, amount }

def readMint : Reader Mint := do
  let group ← readText
  let batch ← readUInt64
  let amount ← readAmount
  return { group, batch, amount }

/-- An index of an output, two bytes of which the first has to be zero. -/
def readIndex : Reader UInt8 := do
  let index ← readNat 2
  if index < 256 then return UInt8.ofNat index
  throw (.invalidInputIndex (UInt64.ofNat index))

def readInput : Reader Input := do
  let hash ← readHash
  let index ← readIndex
  let genesis ← readBytes
  let deposit ← readOption readDeposit
  let mint ← readOption readMint
  return { hash, index, genesis, deposit, mint }

/-- A kind of output, a zero byte and the byte of the kind. -/
def readKind : Reader OutputType := do
  let word ← readUInt16
  if word < 256 then
    match OutputType.ofByte? word.toUInt8 with
    | some kind => return kind
    | none => throw (.unknownOutputType word.toUInt8)
  else throw (.invalidPrefix word)

/-- The chain and the asset key of a withdrawal, where they are written. -/
def readSource (version : UInt8) : Reader (Hash × String) :=
  if version < Version.shortWithdrawals then do
    let chain ← readHash
    let assetKey ← readText
    return (chain, assetKey)
  else pure (Hash.zero, "")

def readWithdrawal (version : UInt8) : Reader Withdrawal := do
  let source ← readSource version
  let address ← readText
  let tag ← readText
  return { chain := source.1, assetKey := source.2, address, tag }

def readOutput (version : UInt8) : Reader Output := do
  let kind ← readKind
  let amount ← readAmount
  let keys ← readList readKey
  let mask ← readKey
  let script ← readBytes
  let withdrawal ← readOption (readWithdrawal version)
  return { kind, amount, keys, mask, script := ⟨script⟩, withdrawal }

def readReferences (version : UInt8) : Reader (List Hash) :=
  if Version.references ≤ version then readList readHash else pure []

def readExtra (version : UInt8) : Reader Bytes := do
  let length ← readNat (if Version.references ≤ version then 4 else 2)
  if length ≤ Limit.storageCapacity then take length
  else throw (.extraTooLarge length)

/-- Throws unless `signer` comes after the last one read, if there is one. -/
def checkAscending (signer : UInt16) : Option UInt16 → Reader Unit
  | none => return
  | some last => do if signer ≤ last then throw .unorderedSigners

/-- `n` elements that start with their signer, after those already read, which are held last
first. -/
def readAscendingFrom {α : Type} (signerOf : α → UInt16) (read : UInt16 → Reader α) :
    (n : Nat) → (done : List α) → Reader (List α)
  | 0, done => return done.reverse
  | n + 1, done => do
    let signer ← readUInt16
    checkAscending signer (done.head?.map signerOf)
    readAscendingFrom signerOf read n ((← read signer) :: done)

/-- Elements in strictly ascending order of their signers, behind their number. -/
def readAscending {α : Type} (signerOf : α → UInt16) (read : UInt16 → Reader α) :
    Reader (List α) := do
  readAscendingFrom signerOf read (← readNat 2) []

def readGroup : Reader SignerMap := do
  return SignerMap.ofList (← readAscending Prod.fst fun signer => return (signer, ← readSignature))

/-- The greatest length of a bitmap of signers below 2^16. -/
def maxBitmapLength : Nat := 8192

/-- The signers whose bits are set in a bitmap, which may not end in a zero byte. -/
def readBitmap : Reader (List UInt16) := do
  let bitmap ← readBytes
  if maxBitmapLength < bitmap.length then throw (.invalidLength bitmap.length maxBitmapLength)
  else if bitmap.getLast? = some 0 then throw .nonMinimalBitmap
  else return SignerSet.listOfBitmap bitmap

/-- The signers in one of the two layouts. -/
def readLayout (mode : UInt8) : Reader (List UInt16) :=
  if mode = Marker.list then readAscending id pure
  else if mode = Marker.bitmap then readBitmap
  else throw (.invalidSignerMode mode)

/-- The signers of an aggregated signature, in the layout that they are written in. -/
def readSigners : Reader SignerSet := do
  let mode ← readUInt8
  let set := SignerSet.ofList (← readLayout mode)
  if set.isSparse = (mode == Marker.list) then return set
  else throw (.invalidSignerMode mode)

def readAggregated : Reader AggregatedSignature := do
  let marker ← readUInt16
  if marker = Marker.aggregateKind then
    let signature ← readSignature
    let signers ← readSigners
    return { signature, signers }
  else throw (.invalidSignatureMarker marker)

def readSignatures : Reader Signatures := do
  let count ← readUInt16
  if count = Marker.aggregate then return .aggregated (← readAggregated)
  return .groups (← readAll count.toNat readGroup)

/-- The fields behind the header. -/
def readBody (version : UInt8) : Reader Transaction := do
  let asset ← readHash
  let inputs ← readList readInput
  let outputs ← readList (readOutput version)
  let references ← readReferences version
  let extra ← readExtra version
  let signatures ← readSignatures
  return { version, asset, inputs, outputs, references, extra, signatures }

/-- The version of a header and what follows it, if the bytes start with one. -/
def splitHeader? : Bytes → Option (UInt8 × Bytes)
  | 0x77 :: 0x77 :: 0x00 :: version :: rest => some (version, rest)
  | _ => none

/-- The transaction behind a header, which has to end with the bytes. -/
def read (version : UInt8) (body : Bytes) : Except DecodeError Transaction :=
  if Version.isBinary version then
    match (readBody version).run body with
    | .error e => .error e
    | .ok (tx, []) => .ok tx
    | .ok (_, rest) => .error (.trailingBytes rest.length)
  else .error (.unsupportedVersion version)

end Wire

end KernelWallet
