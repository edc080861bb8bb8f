import KernelWallet.Address.Xin
import KernelWallet.Uuid

/-! The MIX address: a threshold over members that are all user ids or all XIN addresses. Its
payload is a version, the threshold, the number of members and the members, and it is written in
base58 with a checksum behind `MIX`. -/

namespace KernelWallet

inductive MixMembers where
  /-- User ids, whose one-time keys come from the API. -/
  | uuid (ids : List Uuid)
  /-- Key pairs, whose one-time keys are derived here. -/
  | xin (addresses : List Address)
  deriving DecidableEq

namespace MixMembers

def length : MixMembers → Nat
  | uuid ids => ids.length
  | xin addresses => addresses.length

def payload : MixMembers → Bytes
  | uuid ids => ids.flatMap Uuid.toBytes
  | xin addresses => addresses.flatMap Address.payload

/-- `count` members from their payload; the width of the payload tells the kind. -/
def ofPayload? (count : Nat) (b : Bytes) : Option MixMembers :=
  if b.length = 16 * count then
    ((Bytes.chunks 16 count b).mapM fun c => (Bytes.toVector? 16 c).map Uuid.mk).map uuid
  else if b.length = 64 * count then
    ((Bytes.chunks 64 count b).mapM Address.ofPayload?).map xin
  else none

end MixMembers

def MixAddress.maxMembers : Nat := 64

/-- A threshold between one and the number of members, which is at most `maxMembers`. -/
structure MixAddress where
  threshold : UInt8
  members : MixMembers
  threshold_pos : 1 ≤ threshold.toNat
  threshold_le : threshold.toNat ≤ members.length
  members_le : members.length ≤ MixAddress.maxMembers
  deriving DecidableEq

namespace MixAddress

def format : Checked := ⟨"MIX"⟩

/-- The only version of the payload. -/
def version : UInt8 := 2

/-- The address of a threshold over members, if both are in range. -/
def make (members : MixMembers) (threshold : UInt8) : Except AddressError MixAddress :=
  if members.length = 0 then .error .noMembers
  else if hm : members.length ≤ maxMembers then
    if ht : 1 ≤ threshold.toNat ∧ threshold.toNat ≤ members.length then
      .ok ⟨threshold, members, ht.1, ht.2, hm⟩
    else .error (.invalidThreshold threshold members.length)
  else .error (.tooManyMembers members.length)

def ofUuids (ids : List Uuid) (threshold : UInt8) : Except AddressError MixAddress :=
  make (.uuid ids) threshold

def ofAddresses (addresses : List Address) (threshold : UInt8) : Except AddressError MixAddress :=
  make (.xin addresses) threshold

def isXinText (s : String) : Bool :=
  Address.format.tag.toList.isPrefixOf s.toList

/-- The address of members given as text. The first decides their kind and all must share it. -/
def ofMembers (members : List String) (threshold : UInt8) : Except AddressError MixAddress :=
  match members with
  | [] => .error .noMembers
  | first :: _ => do
    if members.any fun m => isXinText m != isXinText first then throw .mixedMembers
    if isXinText first then
      ofAddresses (← members.mapM Address.ofText) threshold
    else
      let ids ← members.mapM fun m => match Uuid.ofText? m with
        | some id => .ok id
        | none => .error .invalidUuid
      ofUuids ids threshold

def payload (a : MixAddress) : Bytes :=
  [version, a.threshold, UInt8.ofNat a.members.length] ++ a.members.payload

def toText (a : MixAddress) : String :=
  format.text a.payload

/-- Splits the checksum off and checks it. -/
def checkedPayload (b : Bytes) : Except AddressError Bytes :=
  let payload := b.take (b.length - 4)
  if b.length < 7 then .error (.invalidLength b.length)
  else if format.checksum payload ≠ b.drop (b.length - 4) then .error .invalidChecksum
  else .ok payload

/-- The address of a payload without its checksum. -/
def ofPayload : Bytes → Except AddressError MixAddress
  | v :: threshold :: count :: body =>
    if v ≠ version then .error (.unsupportedVersion v)
    else if count = 0 then .error .noMembers
    else match MixMembers.ofPayload? count.toNat body with
      | some members => make members threshold
      | none => .error (.invalidLength body.length)
  | b => .error (.invalidLength b.length)

def ofText (s : String) : Except AddressError MixAddress := do
  ofPayload (← checkedPayload (← format.decode s))

def uuids? (a : MixAddress) : Option (List Uuid) :=
  match a.members with
  | .uuid ids => some ids
  | .xin _ => none

def addresses? (a : MixAddress) : Option (List Address) :=
  match a.members with
  | .uuid _ => none
  | .xin addresses => some addresses

end MixAddress

end KernelWallet
