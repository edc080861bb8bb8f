import KernelWallet.Key.Arithmetic

/-! Schnorr signatures with a scalar as the signing key. The nonce is derived from the digest of
the scalar's bytes and the message, so a key that exists only as a scalar can sign. -/

namespace KernelWallet

/-- The scalar that the SHA-512 digest of a byte string leaves modulo the order. -/
def Scalar.ofDigest (b : Bytes) : Scalar :=
  ofWide (Sha512.digest b).toList

namespace Signature

/-- The challenge that ties a nonce point to a public key and a message. -/
def challenge (nonce publicKey : Vector UInt8 32) (message : Bytes) : Scalar :=
  Scalar.ofDigest (nonce.toList ++ publicKey.toList ++ message)

end Signature

namespace Key

variable (E : Curve)

/-- The signature of a message under a scalar key: `R = r B` and `s = k a + r`. -/
def sign (a : Key) (message : Bytes) : Except KeyError Signature := do
  let scalar ← a.scalar
  let secret := (Sha512.digest a.toBytes).toList.drop 32
  let r := Scalar.ofDigest (secret ++ message)
  let nonce := E.compress (E.mulBase r)
  let k := Signature.challenge nonce (E.compress (E.mulBase scalar)) message
  return Signature.ofParts nonce (Scalar.toBytes (k * scalar + r))

/-- Whether `s B - k A` has the form of `R`. The scalar has to be canonical, and the public key the
form of a point. -/
def verify (A : Key) (message : Bytes) (sig : Signature) : Bool :=
  match E.decompress A.bytes, Scalar.ofBytes? sig.response with
  | some p, some s =>
    let k := Signature.challenge sig.nonce A.bytes message
    E.compress (E.add (E.smul k (E.neg p)) (E.mulBase s)) == sig.nonce
  | _, _ => false

def signHash (a : Key) (h : Hash) : Except KeyError Signature :=
  a.sign E h.toBytes

def verifyHash (A : Key) (h : Hash) (sig : Signature) : Bool :=
  A.verify E h.toBytes sig

end Key

end KernelWallet
