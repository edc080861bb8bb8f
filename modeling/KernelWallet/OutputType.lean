/-! The kinds of outputs, one byte each. -/

namespace KernelWallet

inductive OutputType where
  /-- A plain output, locked by a script. -/
  | script
  | withdrawalSubmit
  | withdrawalFuel
  | nodePledge
  | nodeAccept
  | nodeRemove
  | domainAccept
  | domainRemove
  | withdrawalClaim
  | nodeCancel
  | custodianUpdateNodes
  | custodianSlashNodes
  deriving DecidableEq, Repr

namespace OutputType

def toByte : OutputType → UInt8
  | script => 0x00
  | withdrawalSubmit => 0xa1
  | withdrawalFuel => 0xa2
  | nodePledge => 0xa3
  | nodeAccept => 0xa4
  | nodeRemove => 0xa6
  | domainAccept => 0xa7
  | domainRemove => 0xa8
  | withdrawalClaim => 0xa9
  | nodeCancel => 0xaa
  | custodianUpdateNodes => 0xb1
  | custodianSlashNodes => 0xb2

def all : List OutputType :=
  [script, withdrawalSubmit, withdrawalFuel, nodePledge, nodeAccept, nodeRemove, domainAccept,
    domainRemove, withdrawalClaim, nodeCancel, custodianUpdateNodes, custodianSlashNodes]

def ofByte? (b : UInt8) : Option OutputType :=
  all.find? (·.toByte == b)

theorem ofByte?_toByte (t : OutputType) : ofByte? t.toByte = some t := by
  cases t <;> rfl

theorem toByte_of_ofByte? {b : UInt8} {t : OutputType} (h : ofByte? b = some t) : t.toByte = b := by
  simpa using List.find?_some h

def isWithdrawal : OutputType → Bool
  | withdrawalSubmit | withdrawalFuel | withdrawalClaim => true
  | _ => false

end OutputType

end KernelWallet
