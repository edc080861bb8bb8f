import KernelWallet.Payment.Blueprint
import KernelWallet.Transaction.Json

/-! The JSON forms of addresses, outputs to spend and blueprints. -/

namespace KernelWallet

def Address.toJson (a : Address) : Json := .str a.toText

def Address.ofJson? : Json → Option Address := Json.textOf? Address.ofText

def MixAddress.toJson (a : MixAddress) : Json := .str a.toText

def MixAddress.ofJson? : Json → Option MixAddress := Json.textOf? MixAddress.ofText

def Spendable.toJson (s : Spendable) : Json :=
  .obj [("transaction_hash", s.transaction.toJson), ("output_index", .nat s.index.toNat),
    ("transaction_version", .nat s.version.toNat), ("asset", s.asset.toJson),
    ("amount", s.amount.toJson), ("mask", s.mask.toJson), ("keys", .list Key.toJson s.keys),
    ("owner", s.owner.toJson)]

def Spendable.ofJson? (j : Json) : Option Spendable := do
  let r ← j.record? ["transaction_hash", "output_index", "transaction_version", "asset", "amount",
    "mask", "keys", "owner"]
  let transaction ← r.required "transaction_hash" Hash.ofJson?
  let index ← r.required "output_index" Json.uint8?
  let version ← r.required "transaction_version" Json.uint8?
  let asset ← r.required "asset" Hash.ofJson?
  let amount ← r.required "amount" Amount.ofJson?
  let mask ← r.required "mask" Key.ofJson?
  let keys ← r.required "keys" (Json.list? Key.ofJson?)
  let owner ← r.required "owner" MixAddress.ofJson?
  return { transaction, index, version, asset, amount, mask, keys, owner }

namespace PlannedOutput

/-- The name of the case and the name of its address. -/
def labels (isChange : Bool) : String × String :=
  if isChange then ("Change", "change_destination") else ("Recipient", "recipient")

def toJson (o : PlannedOutput) : Json :=
  let (case, address) := labels o.isChange
  .obj [(case, .obj [(address, o.address.toJson), ("amount", o.amount.toJson)])]

/-- The content of a case. It is always an object. -/
def ofContent? (isChange : Bool) : Json → Option PlannedOutput
  | .obj fields => do
    let name := (labels isChange).2
    let r ← (Json.obj fields).record? [name, "amount"]
    let address ← r.required name MixAddress.ofJson?
    let amount ← r.required "amount" Amount.ofJson?
    return { address, amount, isChange }
  | _ => none

def ofJson? (j : Json) : Option PlannedOutput := do
  match ← j.variant? with
  | ("Recipient", content) => ofContent? false content
  | ("Change", content) => ofContent? true content
  | _ => none

end PlannedOutput

def GhostKeyRequest.toJson (q : GhostKeyRequest) : Json :=
  .obj [("receivers", .list Uuid.toJson q.receivers), ("index", .nat q.index.toNat),
    ("hint", q.hint.toJson)]

def GhostKeyRequest.ofJson? (j : Json) : Option GhostKeyRequest := do
  let r ← j.record? ["receivers", "index", "hint"]
  let receivers ← r.required "receivers" (Json.list? Uuid.ofJson?)
  let index ← r.required "index" Json.uint8?
  let hint ← r.required "hint" Uuid.ofJson?
  return { receivers, index, hint }

def Blueprint.toJson (b : Blueprint) : Json :=
  .obj [("version", .nat b.version.toNat), ("asset", b.asset.toJson),
    ("inputs", .list Spendable.toJson b.inputs), ("outputs", .list PlannedOutput.toJson b.outputs),
    ("extra", Extra.toJson b.extra), ("references", .list Hash.toJson b.references),
    ("hint", .str b.hint)]

def Blueprint.ofJson? (j : Json) : Option Blueprint := do
  let r ← j.record? ["version", "asset", "inputs", "outputs", "extra", "references", "hint"]
  let version ← r.required "version" Json.uint8?
  let asset ← r.required "asset" Hash.ofJson?
  let inputs ← r.required "inputs" (Json.list? Spendable.ofJson?)
  let outputs ← r.required "outputs" (Json.list? PlannedOutput.ofJson?)
  let extra ← r.required "extra" Extra.ofJson?
  let references ← r.required "references" (Json.list? Hash.ofJson?)
  let hint ← r.required "hint" Json.text?
  return { version, asset, inputs, outputs, extra, references, hint }

end KernelWallet
