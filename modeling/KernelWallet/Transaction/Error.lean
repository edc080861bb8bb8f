import KernelWallet.Amount
import KernelWallet.Key.Basic
import KernelWallet.Script
import KernelWallet.Transaction.State

/-! What can go wrong between the bytes of a transaction and its submission. -/

namespace KernelWallet

/-- A number as `0x` and hex digits, as many as `bytes` bytes have. -/
def hexLiteral (bytes n : Nat) : String :=
  "0x" ++ Hex.encode (Bytes.ofNatBE bytes n)

inductive DecodeError where
  | unexpectedEof (missing : Nat)
  | trailingBytes (count : Nat)
  | unsupportedVersion (version : UInt8)
  | invalidPrefix (word : UInt16)
  | invalidInputIndex (index : UInt64)
  | unknownOutputType (byte : UInt8)
  | amount (error : AmountError)
  | invalidString
  | invalidHex
  | invalidSignatureMarker (word : UInt16)
  | invalidSignerMode (byte : UInt8)
  | unorderedSigners
  | nonMinimalBitmap
  | extraTooLarge (length : Nat)
  | invalidLength (got expected : Nat)
  | msgpack
  deriving DecidableEq, Repr

def DecodeError.message : DecodeError → String
  | .unexpectedEof missing => s!"Unexpected end of input: needed {missing} more bytes"
  | .trailingBytes count => s!"{count} trailing bytes after the transaction"
  | .unsupportedVersion version => s!"Unsupported transaction version {version}"
  | .invalidPrefix word => s!"Malformed prefix {hexLiteral 2 word.toNat}"
  | .invalidInputIndex index => s!"Input index {index} does not fit in a byte"
  | .unknownOutputType byte => s!"Unknown output type {hexLiteral 1 byte.toNat}"
  | .amount error => s!"Amount: {error.message}"
  | .invalidString => "String field is not valid UTF-8"
  | .invalidHex => "Input is not valid hex"
  | .invalidSignatureMarker word =>
    s!"Invalid aggregated signature marker {hexLiteral 2 word.toNat}"
  | .invalidSignerMode byte => s!"Invalid aggregated signer layout {hexLiteral 1 byte.toNat}"
  | .unorderedSigners => "Signer indices are not strictly ascending"
  | .nonMinimalBitmap => "Signer bitmap has trailing zero bytes"
  | .extraTooLarge length => s!"Extra of {length} bytes exceeds the storage capacity"
  | .invalidLength got expected => s!"Field has {got} bytes, expected {expected}"
  | .msgpack => "Msgpack: malformed transaction"

inductive EncodeError where
  | tooLong (field : String) (length : Nat)
  | unsupportedVersion (version : UInt8)
  | legacyAggregatedSignature
  | legacySignerIndices
  deriving DecidableEq, Repr

def EncodeError.message : EncodeError → String
  | .tooLong field length => s!"Field '{field}' is too long to encode: {length}"
  | .unsupportedVersion version => s!"Unsupported transaction version {version}"
  | .legacyAggregatedSignature => "Legacy transactions cannot carry an aggregated signature"
  | .legacySignerIndices => "Legacy signatures must use signer indices 0..n"

inductive SignatureError where
  | inputCountMismatch (expected got : Nat)
  | signerOutOfRange (input : Nat) (signer : UInt16)
  | invalidSignature (input : Nat) (signer : UInt16)
  | invalidAggregatedSignature
  | missingSignatures (input : Nat)
  | inputOutOfRange (input : Nat)
  | publicKeyMismatch (input : Nat)
  | notSealed
  | encode (error : EncodeError)
  | key (error : KeyError)
  deriving DecidableEq, Repr

def SignatureError.message : SignatureError → String
  | .inputCountMismatch expected got => s!"Expected {expected} signature groups, found {got}"
  | .signerOutOfRange input signer => s!"Signer {signer} is out of range for input {input}"
  | .invalidSignature input signer => s!"Invalid signature by signer {signer} on input {input}"
  | .invalidAggregatedSignature => "Invalid aggregated signature"
  | .missingSignatures input => s!"Input {input} has no signatures"
  | .inputOutOfRange input => s!"There is no input {input}"
  | .publicKeyMismatch input => s!"No key of input {input} matches the signing key"
  | .notSealed => "The transaction hash has not been computed yet"
  | .encode error => s!"Encode: {error.message}"
  | .key error => s!"Key: {error.message}"

inductive ValidationError where
  | unsupportedVersion (version : UInt8)
  | noInputs
  | tooManyInputs (count : Nat)
  | noOutputs
  | tooManyOutputs (count : Nat)
  | tooManyReferences (count : Nat)
  | referencesNotSupported (version : UInt8)
  | extraTooLarge (length limit : Nat)
  | invalidInputShape (input : Nat)
  | duplicateInput (hash : Hash) (index : UInt8)
  | nonPositiveAmount (output : Nat)
  | invalidScript (output : Nat) (error : ScriptError)
  | invalidOutputKey (output : Nat)
  | invalidWithdrawal (output : Nat)
  | spentOutputsMismatch (expected got : Nat)
  | assetMismatch (input : Nat)
  | unbalancedAmounts (inputs outputs : Amount)
  | amount (error : AmountError)
  deriving DecidableEq, Repr

def ValidationError.message : ValidationError → String
  | .unsupportedVersion version => s!"Unsupported transaction version {version}"
  | .noInputs => "A transaction must have at least one input."
  | .tooManyInputs count => s!"Too many inputs: {count}"
  | .noOutputs => "A transaction must have at least one output."
  | .tooManyOutputs count => s!"Too many outputs: {count}"
  | .tooManyReferences count => s!"Too many references: {count}"
  | .referencesNotSupported version => s!"Version {version} transactions cannot carry references"
  | .extraTooLarge length limit => s!"Extra of {length} bytes exceeds the limit of {limit}"
  | .invalidInputShape input =>
    s!"Input {input} must be exactly one of a UTXO, genesis, deposit or mint"
  | .duplicateInput hash index => s!"Output {hash.toHex}:{index} is spent twice"
  | .nonPositiveAmount output => s!"Output {output} has a non-positive amount"
  | .invalidScript output error => s!"Output {output} script: {error.message}"
  | .invalidOutputKey output => s!"Output {output} has a key or mask that is not a curve point"
  | .invalidWithdrawal output => s!"Output {output} withdrawal data does not match its type"
  | .spentOutputsMismatch expected got => s!"Expected {expected} spent outputs, found {got}"
  | .assetMismatch input => s!"Input {input} spends a different asset"
  | .unbalancedAmounts inputs outputs =>
    s!"Inputs total {inputs.toText} but outputs total {outputs.toText}"
  | .amount error => s!"Amount: {error.message}"

inductive StateError where
  | sealed
  | invalidTransition (current next : TxState)
  deriving DecidableEq, Repr

def StateError.message : StateError → String
  | .sealed => "The transaction hash is cached and the body can no longer change"
  | .invalidTransition current next => s!"Cannot move from {current.name} to {next.name}"

inductive TransactionError where
  | decode (error : DecodeError)
  | encode (error : EncodeError)
  | validation (error : ValidationError)
  | signature (error : SignatureError)
  | state (error : StateError)
  deriving DecidableEq, Repr

def TransactionError.message : TransactionError → String
  | .decode error => s!"Decode: {error.message}"
  | .encode error => s!"Encode: {error.message}"
  | .validation error => s!"Validation: {error.message}"
  | .signature error => s!"Signature: {error.message}"
  | .state error => s!"State: {error.message}"

end KernelWallet
