import KernelWallet.Key.Signing
import KernelWallet.Transaction.Encoding
import KernelWallet.Transaction.Validation

/-! A transaction on its way from draft to network. Once its hash is cached the body is frozen, and
only signatures and the state still change. An operation works on the session it is run on, and a
failure leaves behind the session as it is at that point. -/

namespace KernelWallet

structure Session where
  tx : Transaction
  state : TxState
  hash : Option Hash
  deriving DecidableEq

/-- An operation on a session, which gives a value or fails. -/
abbrev SessionM (ε : Type) := EStateM ε Session

namespace Session

def draft (tx : Transaction) : Session := ⟨tx, .draft, none⟩

/-- A built session of the bytes of a transaction. -/
def decode (b : Bytes) : Except TransactionError Session := do
  let tx ← (Transaction.decode b).mapError .decode
  let hash ← tx.payloadHash.mapError .encode
  return ⟨tx, .built, some hash⟩

def ofHex (s : String) : Except TransactionError Session :=
  match Hex.decode? s with
  | some b => decode b
  | none => .error (.decode .invalidHex)

def sealedHash (s : Session) : Except SignatureError Hash :=
  match s.hash with
  | some hash => .ok hash
  | none => .error .notSealed

/-- Changes the transaction, as long as no hash is cached. -/
def edit (f : Transaction → Transaction) : SessionM StateError Unit := do
  if (← get).hash.isSome then throw .sealed
  modify fun s => { s with tx := f s.tx }

/-- Moves on to the next state. -/
def advance (next : TxState) : SessionM StateError Unit := do
  let current := (← get).state
  if !current.canAdvanceTo next then throw (.invalidTransition current next)
  modify fun s => { s with state := next }

/-- Validates the transaction, caches its hash and moves on to built. A cached hash is returned as
it is. -/
def sealBody (E : Curve) : SessionM TransactionError Hash := do
  let s ← get
  match s.hash with
  | some hash => return hash
  | none =>
    liftExcept ((s.tx.validate E).mapError TransactionError.validation)
    let hash ← liftExcept (s.tx.payloadHash.mapError TransactionError.encode)
    (advance .built).adaptExcept .state
    modify fun s => { s with hash := some hash }
    return hash

/-- The groups of signatures; none if one signature stands for all. -/
def groups (s : Session) : List SignerMap :=
  match s.tx.signatures with
  | .groups gs => gs
  | .aggregated _ => []

/-- The groups of signatures, with empty ones added up to one per input. -/
def paddedGroups (s : Session) : List SignerMap :=
  s.groups ++ List.replicate (s.tx.inputs.length - s.groups.length) SignerMap.empty

/-- The session with other signatures. -/
def withSignatures (s : Session) (signatures : Signatures) : Session :=
  { s with tx := { s.tx with signatures } }

/-- Places a signature of an input. Groups are added up to one per input, and an aggregated
signature gives way. -/
def setSignature (input : Nat) (signer : UInt16) (sig : Signature) :
    SessionM SignatureError Unit := do
  let s ← get
  if s.hash.isNone then throw .notSealed
  if s.tx.inputs.length ≤ input then throw (.inputOutOfRange input)
  set (s.withSignatures (.groups (s.paddedGroups.modify input (·.insert signer sig))))

def setAggregated (agg : AggregatedSignature) : SessionM SignatureError Unit := do
  let s ← get
  if s.hash.isNone then throw .notSealed
  set (s.withSignatures (.aggregated agg))

def raw (s : Session) : Except TransactionError Bytes :=
  s.tx.encode.mapError .encode

/-- The input whose keys hold a position, when the keys of all inputs are laid end to end from
input `i` on; past the end, the number of inputs. -/
def inputAt (i position : Nat) : List (List Key) → Nat
  | [] => i
  | keys :: rest =>
    if position < keys.length then i else inputAt (i + 1) (position - keys.length) rest

section

variable (E : Curve)

/-- Checks the signatures of one input against its keys. -/
def verifyGroup (hash : Hash) (input : Nat) (keys : Array Key) :
    List (UInt16 × Signature) → Except SignatureError Unit
  | [] => .ok ()
  | (signer, sig) :: rest =>
    match keys[signer.toNat]? with
    | none => .error (.signerOutOfRange input signer)
    | some key =>
      if key.verifyHash E hash sig then verifyGroup hash input keys rest
      else .error (.invalidSignature input signer)

/-- Checks the groups of signatures from an input on, each against the keys of its input. -/
def verifyGroups (hash : Hash) (input : Nat) :
    List SignerMap → List (List Key) → Except SignatureError Unit
  | group :: groups, keys :: rest => do
    if group.isEmpty then throw (.missingSignatures input)
    verifyGroup E hash input keys.toArray group.entries
    verifyGroups hash (input + 1) groups rest
  | _, _ => .ok ()

/-- Adds to `total` the keys at the positions of signers. -/
def addSigners (keys : List (List Key)) (flat : Array Key) (total : E.Point) :
    List UInt16 → Except SignatureError E.Point
  | [] => .ok total
  | signer :: rest =>
    match flat[signer.toNat]? with
    | none => .error (.signerOutOfRange (inputAt 0 signer.toNat keys) signer)
    | some key => do
      let p ← (key.point E).mapError .key
      addSigners keys flat (E.add total p) rest

/-- Checks a signature that stands for all signers against the sum of their keys. -/
def verifyAggregated (hash : Hash) (keys : List (List Key)) (agg : AggregatedSignature) :
    Except SignatureError Unit := do
  if agg.signers.toList.isEmpty then throw .invalidAggregatedSignature
  let total ← addSigners E keys keys.flatten.toArray E.zero agg.signers.toList
  if !(Key.ofPoint E total).verifyHash E hash agg.signature then throw .invalidAggregatedSignature

/-- Checks every signature against the keys of the outputs that are spent, a list per input. -/
def verifySignatures (s : Session) (keys : List (List Key)) : Except SignatureError Unit := do
  let hash ← s.sealedHash
  if keys.length ≠ s.tx.inputs.length then
    throw (.inputCountMismatch s.tx.inputs.length keys.length)
  match s.tx.signatures with
  | .groups gs =>
    if gs.length ≠ s.tx.inputs.length then
      throw (.inputCountMismatch s.tx.inputs.length gs.length)
    verifyGroups E hash 0 gs keys
  | .aggregated agg => verifyAggregated E hash keys agg

end

end Session

end KernelWallet
