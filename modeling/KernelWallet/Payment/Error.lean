import KernelWallet.Address.Error
import KernelWallet.Transaction.Error

/-! Why a payment cannot be planned, built or signed. -/

namespace KernelWallet

inductive PaymentError where
  | noInputs
  | noRecipients
  | tooManyInputs (count : Nat)
  | tooManyOutputs (count : Nat)
  | tooManyReferences (count : Nat)
  | memoTooLong (length : Nat)
  | unsupportedVersion (version : UInt8)
  | mixedAssets (expected found : Hash)
  | zeroAmount (recipient : Nat)
  | insufficientFunds (total requested : Amount)
  | ghostKeyCountMismatch (expected got : Nat)
  | ghostKeyMismatch (output : Nat)
  | viewCountMismatch (expected got : Nat)
  | inputMismatch (input : Nat)
  | key (error : KeyError)
  | address (error : AddressError)
  | badAmount (error : AmountError)
  | encode (error : EncodeError)
  | transaction (error : TransactionError)
  | signature (error : SignatureError)
  deriving DecidableEq, Repr

def PaymentError.message : PaymentError → String
  | .noInputs => "No inputs"
  | .noRecipients => "No recipients"
  | .tooManyInputs count => s!"Too many inputs: {count}"
  | .tooManyOutputs count => s!"Too many outputs: {count}"
  | .tooManyReferences count => s!"Too many references: {count}"
  | .memoTooLong length => s!"Memo too long: {length} bytes"
  | .unsupportedVersion version => s!"Unsupported transaction version: {version}"
  | .mixedAssets expected found =>
    s!"Mixed assets not allowed: Expected {expected.toHex}, Found {found.toHex}"
  | .zeroAmount recipient => s!"Recipient {recipient} has a zero amount"
  | .insufficientFunds total requested =>
    s!"Insufficient funds: have {total.toText}, need {requested.toText}"
  | .ghostKeyCountMismatch expected got => s!"Expected ghost keys for {expected} outputs, got {got}"
  | .ghostKeyMismatch output => s!"Ghost keys for output {output} do not match its receivers"
  | .viewCountMismatch expected got => s!"Expected {expected} view keys, got {got}"
  | .inputMismatch input => s!"Input {input} does not spend the given output"
  | .key error => s!"Key: {error.message}"
  | .address error => s!"Address: {error.message}"
  | .badAmount error => s!"Bad Amount: {error.message}"
  | .encode error => s!"Encode: {error.message}"
  | .transaction error => s!"Transaction: {error.message}"
  | .signature error => s!"Signature: {error.message}"

end KernelWallet
