import KernelWallet.Key.Arithmetic
import KernelWallet.Transaction.Basic
import KernelWallet.Transaction.Error

/-! When a transaction is well formed by itself, and when it pays out exactly what it takes in. The
checks go from the version to the last output, and the first that fails gives the error. -/

namespace KernelWallet

/-- An output on chain, as the input that spends it sees it. -/
structure SpentOutput where
  asset : Hash
  amount : Amount
  keys : List Key
  script : Script
  deriving DecidableEq

namespace Input

/-- How many of genesis data, a deposit and a mint the input carries. -/
def extraShapes (i : Input) : Nat :=
  (!i.genesis.isEmpty).toNat + i.deposit.isSome.toNat + i.mint.isSome.toNat

/-- Whether the input takes one shape only; one that spends no output names none. -/
def hasOneShape (i : Input) : Bool :=
  i.extraShapes = 0 || (i.extraShapes = 1 && i.hash = Hash.zero)

/-- Checks the shapes of inputs from position `i` on. No output in `seen`, nor one met on the way,
may be spent again. -/
def checkFrom (i : Nat) (seen : List (Hash × UInt8)) :
    List Input → Except ValidationError Unit
  | [] => .ok ()
  | input :: rest =>
    if !input.hasOneShape then .error (.invalidInputShape i)
    else if input.extraShapes ≠ 0 then checkFrom (i + 1) seen rest
    else if (input.hash, input.index) ∈ seen then .error (.duplicateInput input.hash input.index)
    else checkFrom (i + 1) ((input.hash, input.index) :: seen) rest

/-- Adds to `total` what the inputs from position `i` on bring in. A deposit comes before a mint,
and outputs that are spent are taken from the list in order; it is the error `runsOut` if one is
missing. -/
def totalFrom (asset : Hash) (runsOut : ValidationError) (i : Nat) (total : Amount) :
    List Input → List SpentOutput → Except ValidationError Amount
  | [], _ => .ok total
  | input :: rest, spent =>
    match input.deposit, input.mint, input.genesis, spent with
    | some d, _, _, _ => do
      let total ← (total.add d.amount).mapError .amount
      totalFrom asset runsOut (i + 1) total rest spent
    | none, some m, _, _ => do
      let total ← (total.add m.amount).mapError .amount
      totalFrom asset runsOut (i + 1) total rest spent
    | none, none, [], s :: spent => do
      if s.asset ≠ asset then throw (.assetMismatch i)
      let total ← (total.add s.amount).mapError .amount
      totalFrom asset runsOut (i + 1) total rest spent
    | none, none, [], [] => .error runsOut
    | none, none, _ :: _, spent => totalFrom asset runsOut (i + 1) total rest spent

end Input

namespace Output

variable (E : Curve)

/-- Checks the output at a position. -/
def check (position : Nat) (out : Output) : Except ValidationError Unit := do
  if out.amount.isZero then throw (.nonPositiveAmount position)
  if (out.kind == .withdrawalSubmit) != out.withdrawal.isSome then
    throw (.invalidWithdrawal position)
  if out.kind = .script then
    (out.script.check out.keys.length).mapError (.invalidScript position)
    if !(out.mask.isPoint E && out.keys.all (·.isPoint E)) then throw (.invalidOutputKey position)

/-- Checks outputs from a position on. -/
def checkFrom (position : Nat) : List Output → Except ValidationError Unit
  | [] => .ok ()
  | out :: rest => do
    out.check E position
    checkFrom (position + 1) rest

end Output

namespace Transaction

def checkInputCount (limit : Nat) (tx : Transaction) : Except ValidationError Unit :=
  if tx.inputs.length = 0 then .error .noInputs
  else if limit < tx.inputs.length then .error (.tooManyInputs tx.inputs.length)
  else .ok ()

def checkOutputCount (limit : Nat) (tx : Transaction) : Except ValidationError Unit :=
  if tx.outputs.length = 0 then .error .noOutputs
  else if limit < tx.outputs.length then .error (.tooManyOutputs tx.outputs.length)
  else .ok ()

def checkReferences (tx : Transaction) : Except ValidationError Unit :=
  if tx.references.length = 0 then .ok ()
  else if tx.version < Version.references then .error (.referencesNotSupported tx.version)
  else if Limit.references < tx.references.length then
    .error (.tooManyReferences tx.references.length)
  else .ok ()

def checkExtra (tx : Transaction) : Except ValidationError Unit :=
  if tx.extraLimit < tx.extra.length then .error (.extraTooLarge tx.extra.length tx.extraLimit)
  else .ok ()

def checkInputs (tx : Transaction) : Except ValidationError Unit :=
  Input.checkFrom 0 [] tx.inputs

/-- Whether the transaction is well formed, without a look at the outputs it spends. -/
def validate (E : Curve) (tx : Transaction) : Except ValidationError Unit := do
  if Version.latest < tx.version then throw (.unsupportedVersion tx.version)
  tx.checkInputCount Limit.slices
  tx.checkOutputCount Limit.slices
  tx.checkReferences
  tx.checkExtra
  tx.checkInputs
  Output.checkFrom E 0 tx.outputs

/-- Whether the outputs spent are all of the transaction's asset and, with deposits and mints, come
to the same total as its outputs. -/
def validateSpending (tx : Transaction) (spent : List SpentOutput) :
    Except ValidationError Unit := do
  let expected := tx.inputs.countP Input.isOutput
  let mismatch := ValidationError.spentOutputsMismatch expected spent.length
  if spent.length ≠ expected then throw mismatch
  let totalIn ← Input.totalFrom tx.asset mismatch 0 Amount.zero tx.inputs spent
  let totalOut ← (Amount.sum (tx.outputs.map Output.amount)).mapError .amount
  if totalIn ≠ totalOut then throw (.unbalancedAmounts totalIn totalOut)

end Transaction

end KernelWallet
