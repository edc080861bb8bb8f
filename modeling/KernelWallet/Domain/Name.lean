import KernelWallet.Domain.Label
import KernelWallet.Text.Split

/-! Domain names in any script. Two texts name the same domain if they come to the same labels. -/

namespace KernelWallet.Domain

open Unicode

/-- The labels of a name. Every character is replaced by what it stands for, the whole is composed,
and labels that spell others are spelled out. -/
def labels? (name : List Char) : Option (List Label) := do
  let codes := normalize (← name.mapM fun c => image? c.toNat).flatten
  if codes.any isForbidden then none
  let labels ← (split 0x2e codes).mapM Label.open?
  let rightToLeft := labels.any (·.any fun code => Label.isRightToLeft (direction code))
  if labels.all Label.isSound && (!rightToLeft || labels.all Label.keepsDirection) then
    return labels
  else none

/-- The name that a text comes to, if it is one. -/
def ofChars? (name : List Char) : Option (List Char) := do
  let labels ← labels? name
  return [0x2e].intercalate labels |>.map Char.ofNat

end KernelWallet.Domain
