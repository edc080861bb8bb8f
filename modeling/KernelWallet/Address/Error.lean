import KernelWallet.Key.Basic

/-! Why an address cannot be read or made. -/

namespace KernelWallet

inductive AddressError where
  | invalidPrefix (expected : String)
  | invalidBase58
  | invalidLength (length : Nat)
  | invalidChecksum
  | unsupportedVersion (version : UInt8)
  | invalidThreshold (threshold : UInt8) (members : Nat)
  | tooManyMembers (members : Nat)
  | noMembers
  | mixedMembers
  | invalidUuid
  | key (error : KeyError)
  deriving DecidableEq, Repr

def AddressError.message : AddressError → String
  | .invalidPrefix expected => s!"Address does not start with {expected}"
  | .invalidBase58 => "Invalid base58 encoding"
  | .invalidLength length => s!"Address payload has an invalid length: {length}"
  | .invalidChecksum => "Address checksum mismatch"
  | .unsupportedVersion version => s!"Unsupported MIX address version: {version}"
  | .invalidThreshold threshold members => s!"Invalid threshold {threshold} for {members} members"
  | .tooManyMembers members => s!"Too many members: {members}"
  | .noMembers => "A MIX address needs at least one member"
  | .mixedMembers => "User ids and XIN addresses cannot share a MIX address"
  | .invalidUuid => "Invalid user id"
  | .key error => s!"Key: {error.message}"

end KernelWallet
