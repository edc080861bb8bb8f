import KernelWallet.Client.Hosts
import KernelWallet.Client.Http
import KernelWallet.Json.Reader
import KernelWallet.Json.Writer
import KernelWallet.Transaction.Json
import KernelWallet.Transaction.Session

/-! The client of kernel nodes. A reply that cannot be read counts as none, and an error that the
kernel reports is final. -/

namespace KernelWallet

inductive RpcError where
  | invalidOutputKey (message : String)
  | inputLocked (message : String)
  | invalidSignature (message : String)
  | kernel (message : String)
  | missingData
  | transaction (error : TransactionError)
  | allHostsFailed
  deriving DecidableEq, Repr

namespace RpcError

def message : RpcError → String
  | invalidOutputKey message => s!"invalid output key: {message}"
  | inputLocked message => s!"input locked: {message}"
  | invalidSignature message => s!"invalid signature: {message}"
  | kernel message => s!"RPC error: {message}"
  | missingData => "missing data in RPC response"
  | transaction error => s!"transaction: {error.message}"
  | allHostsFailed => "all kernel hosts failed"

/-- The kind of an error, told by how the kernel's message starts. -/
def ofKernelMessage (message : String) : RpcError :=
  let starts (text : String) : Bool := text.toList.isPrefixOf message.toList
  if starts "invalid output key " then invalidOutputKey message
  else if starts "input locked for transaction " then inputLocked message
  else if starts "invalid tx signature number " || starts "invalid signature keys " then
    invalidSignature message
  else kernel message

end RpcError

namespace Kernel

structure TransactionInfo where
  hash : Hash
  hex : String
  /-- The snapshot that finalized the transaction. -/
  snapshot : Option String

namespace TransactionInfo

def isFinalized (i : TransactionInfo) : Bool :=
  match i.snapshot with
  | some s => !s.isEmpty
  | none => false

def ofJson? (j : Json) : Option TransactionInfo := do
  let r ← j.record? ["hash", "hex", "snapshot"]
  let hash ← r.optional "hash" Hash.zero Hash.ofJson?
  let hex ← r.optional "hex" "" Json.text?
  let snapshot ← r.optional "snapshot" none (Json.nullable? Json.text?)
  return { hash, hex, snapshot }

end TransactionInfo

structure UnspentInfo where
  hash : Hash
  index : UInt8
  amount : Amount
  keys : List Key
  mask : Key
  /-- The transaction that holds the lock on the output. -/
  lock : Option String

def UnspentInfo.ofJson? (j : Json) : Option UnspentInfo := do
  let r ← j.record? ["hash", "index", "amount", "keys", "mask", "lock"]
  let hash ← r.required "hash" Hash.ofJson?
  let index ← r.required "index" Json.uint8?
  let amount ← r.required "amount" Amount.ofJson?
  let keys ← r.required "keys" (Json.list? Key.ofJson?)
  let mask ← r.required "mask" Key.ofJson?
  let lock ← r.optional "lock" none (Json.nullable? Json.text?)
  return { hash, index, amount, keys, mask, lock }

structure NodeInfo where
  network : String
  node : String
  version : String

def NodeInfo.ofJson? (j : Json) : Option NodeInfo := do
  let r ← j.record? ["network", "node", "version"]
  let network ← r.optional "network" "" Json.text?
  let node ← r.optional "node" "" Json.text?
  let version ← r.optional "version" "" Json.text?
  return { network, node, version }

def sentHash? (j : Json) : Option Hash := do
  let r ← j.record? ["hash"]
  r.required "hash" Hash.ofJson?

/-- The message of an error that is reported: a text, or an object with a description. Anything
else is told as JSON. -/
def errorMessage? : Json → Option String
  | .null => none
  | .str "" => none
  | .str message => some message
  | .obj fields =>
    match fields.lookup "description" with
    | some (.str message) => some message
    | _ => some (Json.obj fields).compact
  | j => some j.compact

/-- The data and the error of a reply. -/
def response? (body : String) : Option (Json × Json) := do
  let r ← (← Json.scan? body).record? ["data", "error"]
  let data ← r.optional "data" .null Json.fit?
  let error ← r.optional "error" .null Json.fit?
  return (data.canonical, error.canonical)

/-- What a reply comes to. Success without data is an answer too. -/
def outcome {α : Type} (decode : Json → Option α) : Http.Reply → Outcome RpcError (Option α)
  | .dropped => .noReply
  | .answered status body =>
    if !Http.isSuccess status then .noReply
    else match response? body with
      | none => .noReply
      | some (data, error) =>
        match errorMessage? error with
        | some message => .refusal (.ofKernelMessage message)
        | none =>
          if data.isNull then .answer none
          else match decode data with
            | some a => .answer (some a)
            | none => .noReply

/-- Hosts to call, of which there has to be one. -/
def connect (urls : List String) : Except RpcError Hosts :=
  if urls.isEmpty then .error .allHostsFailed else .ok { urls }

variable {m : Type → Type} [Monad m] (transport : Http.Transport m)

/-- Calls a method on the first host that replies. -/
def call {α : Type} (h : Hosts) (method : String) (params : List Json)
    (decode : Json → Option α) : m (Except RpcError (Option α) × Hosts) :=
  let body := Json.obj [("method", .str method), ("params", .arr params)]
  h.ask (fun url => do
    return outcome decode (← transport { method := .post, url, body := some body }))
    .allHostsFailed

/-- The data of an answer that must have some. -/
def requireData {α : Type} : Except RpcError (Option α) → Except RpcError α
  | .ok (some a) => .ok a
  | .ok none => .error .missingData
  | .error e => .error e

def send (h : Hosts) (rawHex : String) : m (Except RpcError Hash × Hosts) := do
  let (result, h) ← call transport h "sendrawtransaction" [.str rawHex] sentHash?
  return (requireData result, h)

/-- A transaction by its hash. An unknown one comes back as an empty object. -/
def getTransaction (h : Hosts) (hash : Hash) :
    m (Except RpcError (Option TransactionInfo) × Hosts) := do
  let (result, h) ← call transport h "gettransaction" [hash.toJson] TransactionInfo.ofJson?
  return (result.map fun info => info.filter fun i => hasValue i.hash.bytes, h)

def getUnspent (h : Hosts) (hash : Hash) (index : UInt8) :
    m (Except RpcError (Option UnspentInfo) × Hosts) :=
  call transport h "getutxo" [hash.toJson, .nat index.toNat] UnspentInfo.ofJson?

def getInfo (h : Hosts) : m (Except RpcError NodeInfo × Hosts) := do
  let (result, h) ← call transport h "getinfo" [] NodeInfo.ofJson?
  return (requireData result, h)

/-- Looks up a transaction that was refused with a message. Only one of the same hash counts. -/
def lookup (h : Hosts) (hash : Hash) (message : String) : m (Except RpcError Hash × Hosts) := do
  let (result, h) ← getTransaction transport h hash
  let found := do
    match ← result with
    | some info => if info.hash = hash then .ok hash else .error (.invalidOutputKey message)
    | none => .error (.invalidOutputKey message)
  return (found, h)

/-- Submits a transaction. If it is refused for an output key that is not known, it may have been
accepted before and is looked up. -/
def sendOrLookup (h : Hosts) (s : Session) : m (Except RpcError Hash × Hosts) := do
  match s.raw with
  | .error e => return (.error (.transaction e), h)
  | .ok raw =>
    let (result, h) ← send transport h (Hex.encode raw)
    match result, s.hash with
    | .error (.invalidOutputKey message), some hash => lookup transport h hash message
    | result, _ => return (result, h)

end Kernel

end KernelWallet
