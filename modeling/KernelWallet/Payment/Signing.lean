import KernelWallet.Account
import KernelWallet.Payment.Blueprint

/-! Signing the inputs of a sealed transaction. The one-time key of an input is a view scalar plus
the spend scalar. All signatures are made before the first is placed. -/

namespace KernelWallet

/-- A signature and the slot of an input it belongs in. -/
structure InputSignature where
  input : Nat
  slot : UInt16
  signature : Signature
  deriving DecidableEq

namespace InputSignature

/-- The position of a public key among the keys of an output: the one given, which has to hold it,
or the first. -/
def slotOf (keys : List Key) (publicKey : Key) : Option Nat → Option Nat
  | some slot => if keys[slot]? = some publicKey then some slot else none
  | none => keys.findIdx? (· == publicKey)

variable (E : Curve)

/-- Signs a hash for an input with its one-time key. -/
def make (hash : Hash) (input : Nat) (output : Spendable) (oneTime : Key) (slot : Option Nat) :
    Except PaymentError InputSignature := do
  let publicKey ← (oneTime.publicKey E).mapError .key
  match slotOf output.keys publicKey slot with
  | none => throw (.signature (.publicKeyMismatch input))
  | some slot =>
    let signature ← (oneTime.signHash E hash).mapError .key
    return ⟨input, UInt16.ofNat slot, signature⟩

end InputSignature

namespace Session

/-- Checks that the inputs from a position on spend the given outputs, in order. -/
def checkOutpoints (position : Nat) : List Input → List Spendable → Except PaymentError Unit
  | input :: inputs, output :: outputs => do
    if !output.isOutpoint input.hash input.index then throw (.inputMismatch position)
    checkOutpoints (position + 1) inputs outputs
  | _, _ => .ok ()

/-- Checks that the transaction spends exactly the given outputs, in order. -/
def checkSpends (s : Session) (outputs : List Spendable) : Except PaymentError Unit := do
  if s.tx.inputs.length ≠ outputs.length then
    throw (.signature (.inputCountMismatch s.tx.inputs.length outputs.length))
  checkOutpoints 0 s.tx.inputs outputs

/-- Places signatures one after the other. They are placed on a copy, which takes the place of the
session once all are on it. -/
def place (signatures : List InputSignature) : SessionM PaymentError Unit := do
  let placeEach : SessionM SignatureError Unit :=
    signatures.forM fun x => setSignature x.input x.slot x.signature
  match placeEach.run (← get) with
  | .ok _ staged => set staged
  | .error e _ => throw (.signature e)

/-- The one-time key of a view scalar and a spend scalar. -/
def oneTimeKey (view privateSpend : Key) : Except PaymentError Key := do
  let v ← view.scalar.mapError .key
  let b ← privateSpend.scalar.mapError .key
  return Key.ofScalar (v + b)

variable (E : Curve)

/-- Signs outputs from an input position on, each with its own one-time key. -/
def signEach (hash : Hash) {α : Type} (oneTime : α → Except PaymentError Key)
    (output : α → Spendable) (position : Nat) :
    List α → Except PaymentError (List InputSignature)
  | [] => .ok []
  | a :: rest => do
    let key ← oneTime a
    let signature ← InputSignature.make E hash position (output a) key none
    return signature :: (← signEach hash oneTime output (position + 1) rest)

/-- Signs every input with the view scalars that the API returned for them. -/
def signWithViews (privateSpend : Key) (outputs : List Spendable) (views : List Key) :
    SessionM PaymentError Unit := do
  if views.length ≠ outputs.length then
    throw (.viewCountMismatch outputs.length views.length)
  let s ← get
  liftExcept (s.checkSpends outputs)
  let hash ← liftExcept (s.sealedHash.mapError PaymentError.signature)
  let signatures ← liftExcept (signEach E hash (fun (_, view) => oneTimeKey view privateSpend)
    Prod.fst 0 (outputs.zip views))
  place signatures

/-- Signs one input with a view scalar. A caller that knows the slot of its key names it. -/
def signInput (privateSpend : Key) (input : Nat) (output : Spendable) (view : Key)
    (slot : Option Nat) : SessionM PaymentError Unit := do
  let hash ← liftExcept ((← get).sealedHash.mapError PaymentError.signature)
  let key ← liftExcept (oneTimeKey view privateSpend)
  let signature ← liftExcept (InputSignature.make E hash input output key slot)
  place [signature]

/-- Signs every input with the one-time keys that the account derives from the outputs' masks. -/
def signWithAccount (a : Account) (outputs : List Spendable) : SessionM PaymentError Unit := do
  let s ← get
  liftExcept (s.checkSpends outputs)
  let hash ← liftExcept (s.sealedHash.mapError PaymentError.signature)
  let oneTime (o : Spendable) : Except PaymentError Key :=
    (Ghost.privateKey E o.mask a.privateView a.privateSpend o.index o.version).mapError .key
  let signatures ← liftExcept (signEach E hash oneTime id 0 outputs)
  place signatures

end Session

end KernelWallet
