import KernelWallet.Account
import KernelWallet.Address.Mix
import KernelWallet.Client.Config
import KernelWallet.Client.Kernel
import KernelWallet.Command.Arguments

/-! What the commands do. A command yields the text it prints and, if it fails, the error. -/

namespace KernelWallet

inductive WalletError where
  | key (error : KeyError)
  | address (error : AddressError)
  | transaction (error : TransactionError)
  | state (error : StateError)
  | rpc (error : RpcError)
  | config (error : ConfigError)
  | noMembers
  | noReceivers
  deriving DecidableEq

def WalletError.message : WalletError → String
  | .key error => error.message
  | .address error => error.message
  | .transaction error => error.message
  | .state error => error.message
  | .rpc error => error.message
  | .config error => error.message
  | .noMembers => "at least one member is required"
  | .noReceivers => "at least one receiver is required"

namespace Command

variable (E : Curve)

def describe (a : Address) : String :=
  s!"{a.toText}\n  View:  {a.publicView.toHex}\n  Spend: {a.publicSpend.toHex}"

def renderAddress : AddressSource → Except WalletError String
  | .privateSpend key => do
    let account ← (Account.ofPrivateSpend E key).mapError .address
    return describe account.address
  | .publicSpend key => do
    return describe (← (Address.ofPublicSpend E key).mapError .address)
  | .members members threshold => do
    if members.isEmpty then throw .noMembers
    let a ← (MixAddress.ofMembers members threshold).mapError .address
    return s!"{a.toText}\n  Threshold: {a.threshold}/{a.members.length}"

/-- A transaction in hex as JSON, with its hash and its counts in front. -/
def summarize (rawHex : String) : Except WalletError Json := do
  let s ← (Session.ofHex (trimBlanks rawHex)).mapError .transaction
  return .obj [("hash", .option Hash.toJson s.hash), ("inputs", .nat s.tx.inputs.length),
    ("outputs", .nat s.tx.outputs.length), ("signed", .bool !s.tx.signatures.isEmpty),
    ("transaction", s.tx.toJson), ("version", .nat s.tx.version.toNat)]

/-- One-time keys of an output for receivers, of which there has to be one. -/
def deriveGhostKeys (e : Entropy) (receivers : List Address) (index version : UInt8) :
    Except WalletError GhostKeys := do
  if receivers.isEmpty then throw .noReceivers
  let (keys, _) ← (GhostKeys.create E e (receivers.map Address.receiver) index version).mapError
    .key
  return keys

/-- The configuration of a file, if one is named, with the hosts that the environment names. -/
def loadConfig (file : Option (Option String)) (api kernel : Option String) :
    Except WalletError ClientConfig := do
  let base : ClientConfig ← match file with
    | none => pure {}
    | some none => throw (.config .noFile)
    | some (some text) => (ClientConfig.ofFile text).mapError .config
  let c := base.override api kernel
  c.validate.mapError .config
  return c

variable {m : Type → Type} [Monad m] (transport : Http.Transport m)

def success (text : String) : String := s!"\x1b[32m{text}\x1b[0m\n"

/-- Submits a transaction and looks whether it is final already. -/
def submitRaw (c : ClientConfig) (rawHex : String) : m (Except WalletError String) := do
  match Session.ofHex (trimBlanks rawHex) with
  | .error e => return .error (.transaction e)
  | .ok s =>
    match Kernel.connect c.kernelHosts with
    | .error e => return .error (.rpc e)
    | .ok hosts =>
      match ← Kernel.sendOrLookup transport hosts s with
      | (.error e, _) => return .error (.rpc e)
      | (.ok hash, hosts) =>
        match (Session.advance .submitted).run s with
        | .error e _ => return .error (.state e)
        | .ok _ s =>
          match ← Kernel.getTransaction transport hosts hash with
          | (.error e, _) => return .error (.rpc e)
          | (.ok info, _) =>
            if info.any Kernel.TransactionInfo.isFinalized then
              match (Session.advance .mined).run s with
              | .error e _ => return .error (.state e)
              | .ok _ _ => return .ok (success s!"{hash.toHex} finalized")
            else return .ok (success s!"{hash.toHex} submitted")

/-- What stands around the program: random bytes, the file that was named, and the environment. -/
structure Surroundings where
  entropy : Entropy
  /-- None if no file was named, and none inside if there is no such file. -/
  configFile : Option (Option String)
  apiHosts : Option String
  kernelHosts : Option String

/-- What a command printed, and how it ended. -/
structure Report where
  stdout : String
  error : Option WalletError

/-- A report of a command that prints `before` in any case and its own text if it succeeds. -/
def Report.of (before : String) : Except WalletError String → Report
  | .ok text => { stdout := before ++ text, error := none }
  | .error e => { stdout := before, error := some e }

def Report.stderr (r : Report) : String :=
  match r.error with
  | some e => s!"\x1b[31mError:\x1b[0m {e.message}\nError: {e.message}\n"
  | none => ""

def run (around : Surroundings) : Command → m Report
  | .address source =>
    return .of "\n" ((renderAddress E source).map (· ++ "\n"))
  | .decode raw =>
    return .of "" ((summarize raw).map fun j => j.canonical.pretty ++ "\n")
  | .ghost receivers index version =>
    return .of "" ((deriveGhostKeys E around.entropy receivers index version).map fun g =>
      g.toJson.pretty ++ "\n")
  | .sendRaw raw => do
    match loadConfig around.configFile around.apiHosts around.kernelHosts with
    | .error e => return .of "" (.error e)
    | .ok c => return .of "" (← submitRaw transport c raw)

end Command

end KernelWallet
