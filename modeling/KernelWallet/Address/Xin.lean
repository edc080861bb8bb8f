import KernelWallet.Address.Error
import KernelWallet.Key.Arithmetic
import KernelWallet.Text.Base58

/-! The XIN address: a public spend key, a public view key and a checksum of four bytes, in base58
behind `XIN`. -/

namespace KernelWallet

/-- The base58 text of a payload behind a prefix, with the checksum between: the first four bytes
of the SHA3 digest of prefix and payload. -/
structure Checked where
  tag : String

namespace Checked

def checksum (c : Checked) (payload : Bytes) : Bytes :=
  (Hash.sha3 (Bytes.ofText c.tag ++ payload)).toBytes.take 4

def text (c : Checked) (payload : Bytes) : String :=
  String.ofList (c.tag.toList ++ Base58.encode (payload ++ c.checksum payload))

/-- The bytes behind the prefix, checksum included. -/
def decode (c : Checked) (s : String) : Except AddressError Bytes :=
  let chars := s.toList
  let tag := c.tag.toList
  if tag.isPrefixOf chars then
    match Base58.decode? (chars.drop tag.length) with
    | some b => .ok b
    | none => .error .invalidBase58
  else .error (.invalidPrefix c.tag)

end Checked

structure Address where
  publicSpend : Key
  publicView : Key
  deriving DecidableEq

namespace Address

def format : Checked := ⟨"XIN"⟩

def payload (a : Address) : Bytes :=
  a.publicSpend.toBytes ++ a.publicView.toBytes

def toText (a : Address) : String :=
  format.text a.payload

def ofPayload? (b : Bytes) : Option Address := do
  let spend ← Bytes.toVector? 32 (b.take 32)
  let view ← Bytes.toVector? 32 (b.drop 32)
  return ⟨⟨spend⟩, ⟨view⟩⟩

def ofText (s : String) : Except AddressError Address := do
  let b ← format.decode s
  match ofPayload? (b.take 64) with
  | some a =>
    if b.length ≠ 68 then throw (.invalidLength b.length)
    if format.checksum a.payload ≠ b.drop 64 then throw .invalidChecksum
    return a
  | none => throw (.invalidLength b.length)

/-- The address whose view key anyone can derive from its spend key. -/
def ofPublicSpend (E : Curve) (publicSpend : Key) : Except AddressError Address := do
  let view ← ((Key.viewKey publicSpend).publicKey E).mapError .key
  return ⟨publicSpend, view⟩

/-- The public view key, then the public spend key. -/
def receiver (a : Address) : Key × Key :=
  (a.publicView, a.publicSpend)

end Address

end KernelWallet
