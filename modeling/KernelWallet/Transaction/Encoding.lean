import KernelWallet.Transaction.Legacy
import KernelWallet.Transaction.Wire.Reader

/-! The bytes and the hash of a transaction. The version selects the form that is written; the
first bytes tell which form is read. -/

namespace KernelWallet.Transaction

def encode (tx : Transaction) : Except EncodeError Bytes :=
  if tx.version < Version.binary then Legacy.write tx else Wire.write tx

/-- The bytes of a transaction without its signatures, which its hash is taken of. -/
def encodePayload (tx : Transaction) : Except EncodeError Bytes :=
  if tx.version < Version.binary then .ok (Legacy.writePayload tx) else Wire.write tx.payload

/-- The name of a transaction: the digest of its payload, BLAKE3 from version 3 on. -/
def payloadHash (tx : Transaction) : Except EncodeError Hash := do
  let b ← tx.encodePayload
  return if tx.version < Version.blake3 then Hash.sha3 b else Hash.blake3 b

def decode (b : Bytes) : Except DecodeError Transaction :=
  match Wire.splitHeader? b with
  | some (version, body) => Wire.read version body
  | none => Legacy.read b

def ofHex (s : String) : Except DecodeError Transaction :=
  match Hex.decode? s with
  | some b => decode b
  | none => .error .invalidHex

end KernelWallet.Transaction
