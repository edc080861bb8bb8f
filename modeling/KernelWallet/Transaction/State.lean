/-! The life of a transaction, from a draft to its acceptance or refusal by the network. -/

namespace KernelWallet

inductive TxState where
  /-- The body may still change. -/
  | draft
  /-- Checked and ready for signatures. -/
  | built
  /-- Handed to the network. -/
  | submitted
  /-- Accepted by the network. -/
  | mined
  /-- Refused by the network. -/
  | rejected
  deriving DecidableEq, Repr

namespace TxState

def all : List TxState := [draft, built, submitted, mined, rejected]

def name : TxState → String
  | draft => "Draft"
  | built => "Built"
  | submitted => "Submitted"
  | mined => "Mined"
  | rejected => "Rejected"

/-- The position in the order of life. -/
def rank : TxState → Nat
  | draft => 0
  | built => 1
  | submitted => 2
  | mined => 3
  | rejected => 4

/-- Whether `next` is a step forward. -/
def canAdvanceTo : (current next : TxState) → Bool
  | draft, built | built, submitted | built, rejected | submitted, mined
  | submitted, rejected => true
  | _, _ => false

end TxState

end KernelWallet
