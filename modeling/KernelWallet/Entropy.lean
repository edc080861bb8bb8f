import KernelWallet.Bytes

/-! Random bytes as an endless stream that is read from a position on. -/

namespace KernelWallet

structure Entropy where
  stream : Nat → UInt8
  position : Nat := 0

namespace Entropy

def draw (n : Nat) (e : Entropy) : Vector UInt8 n × Entropy :=
  (Vector.ofFn fun i => e.stream (e.position + i), { e with position := e.position + n })

/-- The stream that repeats `period` for ever; all zeros if it is empty. -/
def cycle (period : Bytes) : Entropy :=
  let a := period.toArray
  { stream := fun i => a.getD (i % a.size) 0 }

end Entropy

end KernelWallet
