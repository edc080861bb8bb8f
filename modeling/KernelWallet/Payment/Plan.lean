import KernelWallet.Payment.Blueprint

/-! A payment from outputs in hand to a list of recipients. Planning checks the request and adds
the change, so that as much goes out as comes in. -/

namespace KernelWallet

structure Payment where
  version : UInt8 := Version.latest
  inputs : List Spendable := []
  /-- Who is paid how much, in output order. -/
  recipients : List (MixAddress × Amount) := []
  memo : Bytes := []
  references : List Hash := []
  hint : Option String := none

namespace Payment

/-- An empty payment of an older version. -/
def ofVersion (version : UInt8) : Except PaymentError Payment :=
  if Version.isBinary version then .ok { version } else .error (.unsupportedVersion version)

/-- The sum of the inputs, which must all be of one asset. -/
def totalFrom (asset : Hash) (total : Amount) : List Spendable → Except PaymentError Amount
  | [] => .ok total
  | input :: rest => do
    if input.asset ≠ asset then throw (.mixedAssets asset input.asset)
    totalFrom asset (← (total.add input.amount).mapError .badAmount) rest

/-- What remains when the recipients from a position on have been paid as well. -/
def payFrom (total : Amount) (position : Nat) (requested remaining : Amount) :
    List (MixAddress × Amount) → Except PaymentError Amount
  | [] => .ok remaining
  | (_, amount) :: rest => do
    if amount.isZero then throw (.zeroAmount position)
    let requested ← (requested.add amount).mapError .badAmount
    let remaining ← (remaining.sub amount).mapError fun _ => .insufficientFunds total requested
    payFrom total (position + 1) requested remaining rest

/-- The hint that stands in for one that is not given: the first output spent. -/
def defaultHint (first : Spendable) : String :=
  s!"{first.transaction.toHex}:{first.index}"

/-- The outputs of the recipients, and after them what remains. -/
def outputs (recipients : List (MixAddress × Amount)) (owner : MixAddress) (remaining : Amount) :
    List PlannedOutput :=
  recipients.map (fun (address, amount) => ⟨address, amount, false⟩) ++
    if remaining.isZero then [] else [⟨owner, remaining, true⟩]

/-- Checks the payment and balances it. Room is kept for the change. -/
def plan (p : Payment) : Except PaymentError Blueprint :=
  match p.inputs with
  | [] => .error .noInputs
  | first :: _ => do
    if p.recipients.isEmpty then throw .noRecipients
    if Limit.slices < p.inputs.length then throw (.tooManyInputs p.inputs.length)
    if Limit.slices < p.recipients.length + 1 then
      throw (.tooManyOutputs (p.recipients.length + 1))
    if Limit.extra < p.memo.length then throw (.memoTooLong p.memo.length)
    if Limit.references < p.references.length then
      throw (.tooManyReferences p.references.length)
    let total ← totalFrom first.asset Amount.zero p.inputs
    let remaining ← payFrom total 0 Amount.zero total p.recipients
    return { version := p.version, asset := first.asset, inputs := p.inputs,
             outputs := outputs p.recipients first.owner remaining, extra := p.memo,
             references := p.references, hint := p.hint.getD (defaultHint first) }

/-- Plans the payment and builds its transaction. -/
def build (E : Curve) (p : Payment) (fetched : List GhostKeys) (e : Entropy) :
    Except PaymentError Session := do
  (← p.plan).build E fetched e

end Payment

end KernelWallet
