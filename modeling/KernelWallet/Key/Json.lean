import KernelWallet.Ghost.Keys
import KernelWallet.Json.Record
import KernelWallet.Uuid

/-! The JSON forms of keys and of what is made of them: quoted hex digits. -/

namespace KernelWallet

def Key.toJson (k : Key) : Json := .str k.toHex

/-- A key is read from exactly 64 digits. -/
def Key.ofJson? : Json → Option Key := Json.textOf? Key.ofHexExact

def Hash.toJson (h : Hash) : Json := .str h.toHex

def Hash.ofJson? : Json → Option Hash := Json.textOf? Hash.ofHex

def Signature.toJson (s : Signature) : Json := .str s.toHex

def Signature.ofJson? : Json → Option Signature := Json.textOf? Signature.ofHex

def Uuid.toJson (u : Uuid) : Json := .str u.toText

def Uuid.ofJson? (j : Json) : Option Uuid := do
  Uuid.ofText? (← j.text?)

def HashFamily.name : HashFamily → String
  | .sha3 => "Sha3"
  | .blake3 => "Blake3"

def HashFamily.toJson (f : HashFamily) : Json := .str f.name

def HashFamily.ofJson? (j : Json) : Option HashFamily := do
  let name ← j.bareVariant?
  [HashFamily.sha3, .blake3].find? (·.name == name)

def GhostKeys.toJson (g : GhostKeys) : Json :=
  .obj [("mask", g.mask.toJson), ("keys", .list Key.toJson g.keys)]

def GhostKeys.ofJson? (j : Json) : Option GhostKeys := do
  let r ← j.record? ["mask", "keys"]
  let mask ← r.required "mask" Key.ofJson?
  let keys ← r.required "keys" (Json.list? Key.ofJson?)
  return { mask, keys }

end KernelWallet
