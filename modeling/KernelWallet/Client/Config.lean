import KernelWallet.Client.Url
import KernelWallet.Json.Record
import KernelWallet.Text.Blank
import KernelWallet.Toml.Document

/-! Which hosts the clients use, and how long they wait. -/

namespace KernelWallet

inductive ConfigError where
  /-- There is no such file. -/
  | noFile
  /-- The file is no TOML or does not fit. -/
  | malformed
  | noApiHost
  | noKernelHost
  | invalidUrl (host : String) (error : UrlError)
  | invalidScheme (host : String)
  | zeroTimeout
  deriving DecidableEq

def ConfigError.message : ConfigError → String
  | .noFile => "No such file or directory (os error 2)"
  | .malformed => "malformed configuration"
  | .noApiHost => "At least one API host must be specified"
  | .noKernelHost => "At least one kernel RPC host must be specified"
  | .invalidUrl host error => s!"host {host} is not a valid URL: {error.message}"
  | .invalidScheme host => s!"host {host} must use http or https"
  | .zeroTimeout => "timeout_secs must be greater than zero"

structure ClientConfig where
  apiHosts : List String := ["https://api.mixin.one", "https://mixin-api.zeromesh.net"]
  kernelHosts : List String := ["https://kernel.mixin.dev"]
  /-- How long a request may take, in seconds. -/
  timeout : UInt64 := 30
  deriving DecidableEq

namespace ClientConfig

def toJson (c : ClientConfig) : Json :=
  .obj [("api_hosts", .list .str c.apiHosts), ("kernel_rpc_hosts", .list .str c.kernelHosts),
    ("timeout_secs", .nat c.timeout.toNat)]

def ofJson? (j : Json) : Option ClientConfig := do
  let default : ClientConfig := {}
  let r ← j.record? ["api_hosts", "kernel_rpc_hosts", "timeout_secs"]
  let apiHosts ← r.optional "api_hosts" default.apiHosts (Json.list? Json.text?)
  let kernelHosts ← r.optional "kernel_rpc_hosts" default.kernelHosts (Json.list? Json.text?)
  let timeout ← r.optional "timeout_secs" default.timeout Json.uint64?
  return { apiHosts, kernelHosts, timeout }

def tomlText? : Toml.Value → Option String
  | .str s => some s
  | _ => none

def tomlTexts? : Toml.Node → Option (List String)
  | .value (.arr items) => items.mapM tomlText?
  | _ => none

def tomlUInt64? : Toml.Node → Option UInt64
  | .value (.int n) => if 0 ≤ n ∧ n < (2 ^ 64 : Nat) then some (UInt64.ofNat n.toNat) else none
  | _ => none

/-- A field of a document, or its value when it is not there. -/
def tomlField? {α : Type} (fields : Toml.Node.Fields) (name : String) (default : α)
    (f : Toml.Node → Option α) : Option α :=
  match fields.lookup name with
  | some n => f n
  | none => some default

def ofToml? (text : String) : Option ClientConfig := do
  let default : ClientConfig := {}
  let fields ← Toml.parse? text
  let apiHosts ← tomlField? fields "api_hosts" default.apiHosts tomlTexts?
  let kernelHosts ← tomlField? fields "kernel_rpc_hosts" default.kernelHosts tomlTexts?
  let timeout ← tomlField? fields "timeout_secs" default.timeout tomlUInt64?
  return { apiHosts, kernelHosts, timeout }

def checkHost (host : String) : Except ConfigError Unit := do
  let scheme ← (Url.scheme host).mapError (.invalidUrl host)
  if scheme ≠ "http" ∧ scheme ≠ "https" then throw (.invalidScheme host)

def checkHosts : List String → Except ConfigError Unit
  | [] => .ok ()
  | host :: rest => do
    checkHost host
    checkHosts rest

def validate (c : ClientConfig) : Except ConfigError Unit := do
  if c.apiHosts.isEmpty then throw .noApiHost
  if c.kernelHosts.isEmpty then throw .noKernelHost
  checkHosts (c.apiHosts ++ c.kernelHosts)
  if c.timeout = 0 then throw .zeroTimeout

/-- The configuration of a file, which has to be valid by itself. -/
def ofFile (text : String) : Except ConfigError ClientConfig :=
  match ofToml? text with
  | none => .error .malformed
  | some c => do
    c.validate
    return c

/-- The hosts between the commas of a text, without blanks around them. -/
def splitHosts (text : String) : List String :=
  ((text.splitOn ",").map trimBlanks).filter (!·.isEmpty)

/-- The hosts of a text, if it is given and names any. -/
def overrideBy (hosts : List String) (text : Option String) : List String :=
  match text with
  | some t => let named := splitHosts t; if named.isEmpty then hosts else named
  | none => hosts

/-- Replaces the hosts by those that the environment names. -/
def override (c : ClientConfig) (api kernel : Option String) : ClientConfig :=
  { c with apiHosts := overrideBy c.apiHosts api, kernelHosts := overrideBy c.kernelHosts kernel }

end ClientConfig

end KernelWallet
