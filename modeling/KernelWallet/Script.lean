import KernelWallet.Text.Hex

/-! Output locking scripts. The only shape in use is `ff fe t`, which asks for signatures by `t` of
the keys of the output. -/

namespace KernelWallet

inductive ScriptError where
  | malformed (length : Nat)
  | invalidThreshold (threshold : UInt8)
  | notEnoughKeys (threshold : UInt8) (keys : Nat)
  deriving DecidableEq, Repr

def ScriptError.message : ScriptError → String
  | .malformed length => s!"Malformed script of {length} bytes"
  | .invalidThreshold threshold => s!"Threshold {threshold} is outside 1..=64"
  | .notEnoughKeys threshold keys => s!"Threshold {threshold} exceeds the {keys} available keys"

structure Script where
  bytes : Bytes
  deriving DecidableEq

namespace Script

def empty : Script := ⟨[]⟩

/-- The highest threshold a script may ask for. -/
def maxThreshold : UInt8 := 64

def ofThreshold (threshold : UInt8) : Script := ⟨[0xff, 0xfe, threshold]⟩

/-- The threshold of a script of the one shape. -/
def threshold (s : Script) : Except ScriptError UInt8 :=
  match s.bytes with
  | [0xff, 0xfe, t] => if t = 0 ∨ maxThreshold < t then .error (.invalidThreshold t) else .ok t
  | b => .error (.malformed b.length)

/-- Whether the script has the one shape and so many keys can meet its threshold. -/
def check (s : Script) (keys : Nat) : Except ScriptError Unit := do
  let t ← s.threshold
  if keys < t.toNat then throw (.notEnoughKeys t keys)

def toText (s : Script) : String := Hex.encode s.bytes

end Script

end KernelWallet
