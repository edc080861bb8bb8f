import KernelWallet.Client.Hosts
import KernelWallet.Client.Http
import KernelWallet.Entropy
import KernelWallet.Json.Reader
import KernelWallet.Payment.Json

/-! The client of the Safe API, which keeps the one-time keys and the view scalars of user ids. -/

namespace KernelWallet

inductive ApiError where
  | http (text : String)
  | status (code : UInt16)
  | api (code : Int) (description : String)
  | missingData
  | decode (text : String)
  | auth (text : String)
  | allHostsFailed
  deriving DecidableEq, Repr

namespace ApiError

def message : ApiError → String
  | .http text => s!"HTTP error: {text}"
  | .status code => s!"HTTP status {code}"
  | .api code description => s!"API error {code}: {description}"
  | .missingData => "missing data in API response"
  | .decode text => s!"unexpected response: {text}"
  | .auth text => s!"authentication failed: {text}"
  | .allHostsFailed => "all API hosts failed"

/-- Whether another host could do better. -/
def isTransport : ApiError → Bool
  | .http _ | .status _ | .decode _ => true
  | .api .. | .missingData | .auth _ | .allHostsFailed => false

/-- What an attempt that ends with an error comes to. -/
def outcome {α : Type} (e : ApiError) : Outcome ApiError α :=
  if e.isTransport then .noReply else .refusal e

end ApiError

theorem Uuid.four_mul_lt (i : Fin 16) : 4 * i.val < 64 := by omega

/-- A fresh identifier: the first byte of each of sixteen draws of four. -/
def Uuid.random (e : Entropy) : Uuid × Entropy :=
  let (drawn, e) := e.draw 64
  (Uuid.stamp 4 (Vector.ofFn fun i => drawn.get ⟨4 * i.val, four_mul_lt i⟩), e)

namespace Safe

/-- Gives the token of a request from its method, path and body. It is asked for each host anew. -/
abbrev Authenticator (m : Type → Type) :=
  Http.Method → String → Option Json → m (Except ApiError String)

/-- A token that is always the same. -/
def staticToken {m : Type → Type} [Monad m] (token : String) : Authenticator m := fun _ _ _ =>
  return if token.isEmpty then .error (.auth "empty token") else .ok token

structure Submission where
  requestId : Uuid
  raw : String
  deriving DecidableEq

def Submission.toJson (s : Submission) : Json :=
  .obj [("request_id", s.requestId.toJson), ("raw", .str s.raw)]

def Submission.ofJson? (j : Json) : Option Submission := do
  let r ← j.record? ["request_id", "raw"]
  let requestId ← r.required "request_id" Uuid.ofJson?
  let raw ← r.required "raw" Json.text?
  return { requestId, raw }

structure SubmissionInfo where
  requestId : Uuid
  hash : Hash
  /-- One view scalar per input. -/
  views : List Key
  state : String
  raw : String

def SubmissionInfo.ofJson? (j : Json) : Option SubmissionInfo := do
  let r ← j.record? ["request_id", "transaction_hash", "views", "state", "raw_transaction"]
  let requestId ← r.required "request_id" Uuid.ofJson?
  let hash ← r.required "transaction_hash" Hash.ofJson?
  let views ← r.optional "views" [] (Json.list? Key.ofJson?)
  let state ← r.optional "state" "" Json.text?
  let raw ← r.optional "raw_transaction" "" Json.text?
  return { requestId, hash, views, state, raw }

structure OutputInfo where
  outputId : Uuid
  transaction : Hash
  index : UInt8
  asset : Hash
  amount : Amount
  mask : Key
  keys : List Key
  receivers : List Uuid
  threshold : UInt8
  state : String

namespace OutputInfo

def ofJson? (j : Json) : Option OutputInfo := do
  let r ← j.record? ["output_id", "transaction_hash", "output_index", "asset", "amount", "mask",
    "keys", "receivers", "receivers_threshold", "state"]
  let outputId ← r.required "output_id" Uuid.ofJson?
  let transaction ← r.required "transaction_hash" Hash.ofJson?
  let index ← r.required "output_index" Json.uint8?
  let asset ← r.required "asset" Hash.ofJson?
  let amount ← r.required "amount" Amount.ofJson?
  let mask ← r.required "mask" Key.ofJson?
  let keys ← r.required "keys" (Json.list? Key.ofJson?)
  let receivers ← r.required "receivers" (Json.list? Uuid.ofJson?)
  let threshold ← r.required "receivers_threshold" Json.uint8?
  let state ← r.optional "state" "" Json.text?
  return { outputId, transaction, index, asset, amount, mask, keys, receivers, threshold, state }

/-- The output as one to spend. The API makes outputs at the latest version. -/
def toSpendable (o : OutputInfo) : Except ApiError Spendable := do
  let owner ← (MixAddress.ofUuids o.receivers o.threshold).mapError fun e => .decode e.message
  return { transaction := o.transaction, index := o.index, version := Version.latest,
           asset := o.asset, amount := o.amount, mask := o.mask, keys := o.keys, owner }

end OutputInfo

/-- The text whose digest names a set of members: their identifiers in order, end to end. -/
def membersText (members : List Uuid) : String :=
  String.join ((members.map Uuid.toText).mergeSort (· ≤ ·))

def membersHash (members : List Uuid) : Hash :=
  Hash.sha3 (Bytes.ofText (membersText members))

/-- Which outputs of a set of members are listed. -/
structure OutputQuery where
  members : List Uuid
  threshold : UInt8
  asset : Option Hash := none
  state : Option String := none
  offset : Option UInt64 := none
  limit : UInt32 := 500

namespace OutputQuery

def unspent (members : List Uuid) (threshold : UInt8) : OutputQuery :=
  { members, threshold, state := some "unspent" }

def path (q : OutputQuery) : String :=
  let part (name : String) : Option String → String
    | some value => s!"&{name}={value}"
    | none => ""
  s!"/safe/outputs?members={(membersHash q.members).toHex}&threshold={q.threshold}" ++
    s!"&limit={q.limit}" ++ part "asset" (q.asset.map Hash.toHex) ++ part "state" q.state ++
    part "offset" (q.offset.map toString)

end OutputQuery

def error? (j : Json) : Option ApiError := do
  let r ← j.record? ["code", "description"]
  let code ← r.optional "code" 0 Json.int64?
  let description ← r.optional "description" "" Json.text?
  return .api code description

/-- What a reply comes to. A server error and a reply that cannot be read count as none; of an
error and data the error counts. -/
def outcome {α : Type} (decode : Json → Option α) : Http.Reply → Outcome ApiError α
  | .dropped => .noReply
  | .answered status body =>
    if Http.isServerError status then .noReply
    else
      let parts := do
        let r ← (← Json.scan? body).record? ["data", "error"]
        let data ← r.nullable "data" decode
        let error ← r.nullable "error" error?
        return (data, error)
      match parts with
      | none => .noReply
      | some (_, some e) => .refusal e
      | some (some a, none) => .answer a
      | some (none, none) => .refusal .missingData

end Safe

/-- The hosts of the API without slashes at their ends, and the source of tokens. -/
structure SafeClient (m : Type → Type) where
  hosts : Hosts
  token : Safe.Authenticator m

namespace SafeClient

def trimSlashes (host : String) : String :=
  String.ofList (host.toList.reverse.dropWhile (· == '/')).reverse

variable {m : Type → Type}

def connect (urls : List String) (token : Safe.Authenticator m) : Except ApiError (SafeClient m) :=
  if urls.isEmpty then .error .allHostsFailed
  else .ok { hosts := { urls := urls.map trimSlashes }, token }

variable [Monad m] (transport : Http.Transport m)

/-- Sends a request to one host, with a token that is asked for first. -/
def attempt {α : Type} (c : SafeClient m) (method : Http.Method) (path : String)
    (body : Option Json) (decode : Json → Option α) (url : String) : m (Outcome ApiError α) := do
  match ← c.token method path body with
  | .error e => return e.outcome
  | .ok token =>
    let request := { method, url := url ++ path, token := some token, body }
    return Safe.outcome decode (← transport request)

/-- Sends a request to the first host that replies. -/
def request {α : Type} (c : SafeClient m) (method : Http.Method) (path : String)
    (body : Option Json) (decode : Json → Option α) : m (Except ApiError α × SafeClient m) := do
  let (result, hosts) ← c.hosts.ask (c.attempt transport method path body decode) .allHostsFailed
  return (result, { c with hosts })

/-- The keys for outputs to user ids, one answer per request. -/
def createGhostKeys (c : SafeClient m) (requests : List GhostKeyRequest) :
    m (Except ApiError (List GhostKeys) × SafeClient m) := do
  if requests.isEmpty then return (.ok [], c)
  let (result, c) ← c.request transport .post "/safe/keys"
    (some (.list GhostKeyRequest.toJson requests)) (Json.list? GhostKeys.ofJson?)
  let checked := do
    let keys ← result
    if keys.length ≠ requests.length then
      throw (.decode s!"expected {requests.length} ghost keys, got {keys.length}")
    return keys
  return (checked, c)

/-- Hands in transactions under a path. -/
def submitTo (c : SafeClient m) (path : String) (submissions : List Safe.Submission) :
    m (Except ApiError (List Safe.SubmissionInfo) × SafeClient m) :=
  c.request transport .post path (some (.list Safe.Submission.toJson submissions))
    (Json.list? Safe.SubmissionInfo.ofJson?)

def createRequests (c : SafeClient m) (submissions : List Safe.Submission) :
    m (Except ApiError (List Safe.SubmissionInfo) × SafeClient m) :=
  c.submitTo transport "/safe/transaction/requests" submissions

def submit (c : SafeClient m) (submissions : List Safe.Submission) :
    m (Except ApiError (List Safe.SubmissionInfo) × SafeClient m) :=
  c.submitTo transport "/safe/transactions" submissions

def readRequest (c : SafeClient m) (id : Uuid) :
    m (Except ApiError Safe.SubmissionInfo × SafeClient m) :=
  c.request transport .get s!"/safe/transactions/{id.toText}" none Safe.SubmissionInfo.ofJson?

def listOutputs (c : SafeClient m) (q : Safe.OutputQuery) :
    m (Except ApiError (List Safe.OutputInfo) × SafeClient m) :=
  c.request transport .get q.path none (Json.list? Safe.OutputInfo.ofJson?)

end SafeClient

end KernelWallet
