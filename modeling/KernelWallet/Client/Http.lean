import KernelWallet.Json.Basic

/-! Requests and replies as far as a client sees them. -/

namespace KernelWallet.Http

inductive Method where
  | get
  | post
  deriving DecidableEq

def Method.name : Method → String
  | .get => "GET"
  | .post => "POST"

structure Request where
  method : Method
  url : String
  /-- A bearer token. -/
  token : Option String := none
  /-- Sent as JSON text. -/
  body : Option Json := none

inductive Reply where
  /-- The host cannot be reached or hangs up. -/
  | dropped
  | answered (status : Nat) (body : String)

/-- Carries a request to a host and brings back its reply. -/
abbrev Transport (m : Type → Type) := Request → m Reply

def isSuccess (status : Nat) : Bool := 200 ≤ status && status < 300

def isServerError (status : Nat) : Bool := 500 ≤ status && status < 600

end KernelWallet.Http
