import KernelWallet.Key.Json
import KernelWallet.Text.Base64
import KernelWallet.Transaction.Basic
import KernelWallet.Transaction.Error

/-! The JSON forms of transactions and their parts. Amounts are decimal texts, scripts and genesis
data are hex, and extra is base64. -/

namespace KernelWallet

def Amount.toJson (a : Amount) : Json := .str a.toText

/-- An amount is read from its text alone, which may be zero. -/
def Amount.ofJson? : Json → Option Amount := Json.textOf? Amount.ofText

/-- Bytes from quoted hex digits. -/
def Hex.ofJson? (j : Json) : Option Bytes := do
  Hex.decode? (← j.text?)

def Script.toJson (s : Script) : Json := .str s.toText

def Script.ofJson? (j : Json) : Option Script :=
  (Hex.ofJson? j).map Script.mk

def OutputType.toJson (t : OutputType) : Json := .nat t.toByte.toNat

def OutputType.ofJson? (j : Json) : Option OutputType := do
  OutputType.ofByte? (← j.uint8?)

namespace Extra

/-- Extra from a text: base64 if it can be read so, else hex. -/
def ofText? (s : String) : Option Bytes :=
  match Base64.decode? s with
  | some b => some b
  | none => Hex.decode? s

def toJson (extra : Bytes) : Json := .str (Base64.encode extra)

def ofJson? (j : Json) : Option Bytes := do
  ofText? (← j.text?)

end Extra

def Deposit.toJson (d : Deposit) : Json :=
  .obj [("chain", d.chain.toJson), ("asset_key", .str d.assetKey),
    ("transaction", .str d.transaction), ("index", .nat d.index.toNat), ("amount", d.amount.toJson)]

def Deposit.ofJson? (j : Json) : Option Deposit := do
  let r ← j.record? ["chain", "asset_key", "transaction", "index", "amount"]
  let chain ← r.required "chain" Hash.ofJson?
  let assetKey ← r.required "asset_key" Json.text?
  let transaction ← r.required "transaction" Json.text?
  let index ← r.required "index" Json.uint64?
  let amount ← r.required "amount" Amount.ofJson?
  return { chain, assetKey, transaction, index, amount }

def Mint.toJson (m : Mint) : Json :=
  .obj [("group", .str m.group), ("batch", .nat m.batch.toNat), ("amount", m.amount.toJson)]

def Mint.ofJson? (j : Json) : Option Mint := do
  let r ← j.record? ["group", "batch", "amount"]
  let group ← r.required "group" Json.text?
  let batch ← r.required "batch" Json.uint64?
  let amount ← r.required "amount" Amount.ofJson?
  return { group, batch, amount }

def Input.toJson (i : Input) : Json :=
  .obj [("hash", i.hash.toJson), ("index", .nat i.index.toNat),
    ("genesis", .str (Hex.encode i.genesis)), ("deposit", .option Deposit.toJson i.deposit),
    ("mint", .option Mint.toJson i.mint)]

def Input.ofJson? (j : Json) : Option Input := do
  let r ← j.record? ["hash", "index", "genesis", "deposit", "mint"]
  let hash ← r.required "hash" Hash.ofJson?
  let index ← r.required "index" Json.uint8?
  let genesis ← r.optional "genesis" [] Hex.ofJson?
  let deposit ← r.optional "deposit" none (Json.nullable? Deposit.ofJson?)
  let mint ← r.optional "mint" none (Json.nullable? Mint.ofJson?)
  return { hash, index, genesis, deposit, mint }

def Withdrawal.toJson (w : Withdrawal) : Json :=
  .obj [("chain", w.chain.toJson), ("asset_key", .str w.assetKey), ("address", .str w.address),
    ("tag", .str w.tag)]

def Withdrawal.ofJson? (j : Json) : Option Withdrawal := do
  let r ← j.record? ["chain", "asset_key", "address", "tag"]
  let chain ← r.optional "chain" Hash.zero Hash.ofJson?
  let assetKey ← r.optional "asset_key" "" Json.text?
  let address ← r.required "address" Json.text?
  let tag ← r.optional "tag" "" Json.text?
  return { chain, assetKey, address, tag }

/-- A withdrawal that is not there is not written. -/
def Output.toJson (o : Output) : Json :=
  .obj ([("type", o.kind.toJson), ("amount", o.amount.toJson), ("keys", .list Key.toJson o.keys),
    ("mask", o.mask.toJson), ("script", o.script.toJson)] ++
      (o.withdrawal.map fun w => ("withdrawal", w.toJson)).toList)

def Output.ofJson? (j : Json) : Option Output := do
  let r ← j.record? ["type", "amount", "keys", "mask", "script", "withdrawal"]
  let kind ← r.required "type" OutputType.ofJson?
  let amount ← r.required "amount" Amount.ofJson?
  let keys ← r.required "keys" (Json.list? Key.ofJson?)
  let mask ← r.required "mask" Key.ofJson?
  let script ← r.required "script" Script.ofJson?
  let withdrawal ← r.optional "withdrawal" none (Json.nullable? Withdrawal.ofJson?)
  return { kind, amount, keys, mask, script, withdrawal }

namespace SignerMap

def toJson (m : SignerMap) : Json :=
  .obj (m.entries.map fun (signer, sig) => (toString signer.toNat, sig.toJson))

/-- A signer is an integer as JSON writes it. -/
def entry? (field : String × Json) : Option (UInt16 × Signature) := do
  let signer ← (← Json.Number.ofChars? field.1.toList).uint16?
  return (signer, ← Signature.ofJson? field.2)

def ofJson? : Json → Option SignerMap
  | .obj fields => (fields.mapM entry?).map ofList
  | _ => none

end SignerMap

def AggregatedSignature.toJson (a : AggregatedSignature) : Json :=
  .obj [("signature", a.signature.toJson),
    ("signers", .list (fun m => .nat m.toNat) a.signers.toList)]

/-- The signers may come in any order and more than once. -/
def AggregatedSignature.ofJson? (j : Json) : Option AggregatedSignature := do
  let r ← j.record? ["signature", "signers"]
  let signature ← r.required "signature" Signature.ofJson?
  let signers ← r.required "signers" (Json.list? Json.uint16?)
  return { signature, signers := SignerSet.ofList signers }

def Signatures.toJson : Signatures → Json
  | .groups gs => .obj [("map", .list SignerMap.toJson gs)]
  | .aggregated a => .obj [("aggregated", a.toJson)]

def Signatures.ofJson? (j : Json) : Option Signatures := do
  match ← j.variant? with
  | ("map", content) => return .groups (← content.list? SignerMap.ofJson?)
  | ("aggregated", content) => return .aggregated (← AggregatedSignature.ofJson? content)
  | _ => none

def Transaction.toJson (tx : Transaction) : Json :=
  .obj [("version", .nat tx.version.toNat), ("asset", tx.asset.toJson),
    ("inputs", .list Input.toJson tx.inputs), ("outputs", .list Output.toJson tx.outputs),
    ("references", .list Hash.toJson tx.references), ("extra", Extra.toJson tx.extra),
    ("signatures", tx.signatures.toJson)]

def Transaction.ofJson? (j : Json) : Option Transaction := do
  let r ← j.record? ["version", "asset", "inputs", "outputs", "references", "extra", "signatures"]
  let version ← r.required "version" Json.uint8?
  let asset ← r.required "asset" Hash.ofJson?
  let inputs ← r.required "inputs" (Json.list? Input.ofJson?)
  let outputs ← r.required "outputs" (Json.list? Output.ofJson?)
  let references ← r.optional "references" [] (Json.list? Hash.ofJson?)
  let extra ← r.optional "extra" [] Extra.ofJson?
  let signatures ← r.optional "signatures" Signatures.none Signatures.ofJson?
  return { version, asset, inputs, outputs, references, extra, signatures }

def TxState.toJson (s : TxState) : Json := .str s.name

def TxState.ofJson? (j : Json) : Option TxState := do
  let name ← j.bareVariant?
  TxState.all.find? (·.name == name)

end KernelWallet
