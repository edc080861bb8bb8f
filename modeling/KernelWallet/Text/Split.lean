/-! Cutting lists at separators. -/

namespace KernelWallet

/-- The pieces of a list between the elements equal to `x`. -/
def split {α : Type} [BEq α] (x : α) (l : List α) : List (List α) :=
  l.foldr (fun a pieces => match pieces with
    | piece :: rest => if a == x then [] :: piece :: rest else (a :: piece) :: rest
    | [] => [[a]]) [[]]

end KernelWallet
