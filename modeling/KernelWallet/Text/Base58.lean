import KernelWallet.Bytes

/-! Base58 text: the big-endian number of a byte string in 58 digits that leave out `0`, `O`, `I`
and `l`. Each leading zero byte is written as one leading `1`. -/

namespace KernelWallet.Base58

def alphabet : List Char :=
  "123456789ABCDEFGHJKLMNPQRSTUVWXYZabcdefghijkmnopqrstuvwxyz".toList

/-- The digits of `n`, most significant first, before those in `done`. Zero has none. -/
def digits (n : Nat) (done : List Nat) : List Nat :=
  if h : n = 0 then done else digits (n / 58) (n % 58 :: done)
termination_by n
decreasing_by omega

/-- The number that digits spell, most significant first. -/
def ofDigits (ds : List Nat) : Nat :=
  ds.foldl (fun n d => 58 * n + d) 0

def encode (b : Bytes) : List Char :=
  let zeros := (b.takeWhile (· == 0)).map fun _ => '1'
  zeros ++ (digits b.toNatBE []).map fun d => alphabet.getD d '1'

def value? (c : Char) : Option Nat :=
  alphabet.findIdx? (· == c)

def decode? (text : List Char) : Option Bytes := do
  let ds ← text.mapM value?
  let zeros := (ds.takeWhile (· == 0)).map fun _ => 0
  return zeros ++ Bytes.minimalBE (ofDigits ds)

end KernelWallet.Base58
