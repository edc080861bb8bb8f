/-! Hosts that stand in for one another. The one that answered last is asked first, and the others
follow in cyclic order until one replies. -/

namespace KernelWallet

/-- What came of asking one host. -/
inductive Outcome (ε α : Type) where
  | answer (a : α)
  /-- A reply that no other host would better. -/
  | refusal (e : ε)
  /-- No reply that can be used. -/
  | noReply

structure Hosts where
  urls : List String
  /-- The position of the host that is asked first. -/
  primary : Nat := 0
  deriving DecidableEq

namespace Hosts

/-- The hosts with their positions, in the order in which they are asked. -/
def order (h : Hosts) : List (String × Nat) :=
  h.urls.zipIdx.rotateLeft h.primary

variable {m : Type → Type} [Monad m] {ε α : Type}

/-- Asks hosts until one replies. -/
def firstReply (attempt : String → m (Outcome ε α)) :
    List (String × Nat) → m (Option (Nat × Except ε α))
  | [] => pure none
  | (url, position) :: rest => do
    match ← attempt url with
    | .answer a => return some (position, .ok a)
    | .refusal e => return some (position, .error e)
    | .noReply => firstReply attempt rest

/-- The first reply of a host, and the hosts with the one that answered as primary. -/
def ask (h : Hosts) (attempt : String → m (Outcome ε α)) (allFailed : ε) :
    m (Except ε α × Hosts) := do
  match ← firstReply attempt h.order with
  | some (position, .ok a) => return (.ok a, { h with primary := position })
  | some (_, .error e) => return (.error e, h)
  | none => return (.error allFailed, h)

end Hosts

end KernelWallet
