import KernelWallet.Domain.Mapping
import KernelWallet.Domain.Punycode
import KernelWallet.Unicode.Direction
import KernelWallet.Unicode.Joining
import KernelWallet.Unicode.Normal

/-! The labels of a domain name: what they spell, and the rules for marks, joiners and the direction
of writing. -/

namespace KernelWallet.Domain

open Unicode

/-- A label as code points, in lower case and in the normal form. -/
abbrev Label := List Nat

/-- Whether a code point may not stand in a name although it stands for itself. -/
def isForbidden (code : Nat) : Bool :=
  code ≤ 0x20 || code == 0x7f || ("%#/:<>?@[\\]^|".toList.map Char.toNat).contains code

namespace Label

def isAscii (l : Label) : Bool := l.all (· < 0x80)

/-- What a label starts with that spells another. -/
def spellingMark : Label := "xn--".toList.map Char.toNat

/-- The most characters of a label behind the mark, and of a label that is not in ASCII. -/
def maxSpelling : Nat := 2000
def maxLength : Nat := 1000

/-- Whether a text is as it would be after mapping and composing. -/
def isSettled (l : Label) : Bool :=
  l.all (fun code => image? code == some [code] && !isForbidden code && code != 0x2e) &&
    normalize l == l

/-- The label that a label spells. It is not in ASCII, or it would have been written as it is, and
it spells no other. -/
def spelled? (spelling : Label) : Option Label := do
  if maxSpelling < spelling.length then none
  let l : Label ← Punycode.decode? (spelling.map Char.ofNat)
  if !l.isAscii && l.isSettled && !spellingMark.isPrefixOf l then return l else none

/-- The label itself or, behind the mark, the one that it spells. -/
def open? (l : Label) : Option Label :=
  if spellingMark.isPrefixOf l then spelled? (l.drop spellingMark.length) else some l

/-- Whether the next of some code points, those apart that are passed over, joins as one of
`joinings`. -/
def joins (joinings : List Joining) (codes : List Nat) : Bool :=
  match codes.dropWhile (joining · == .transparent) with
  | code :: _ => joinings.contains (joining code)
  | [] => false

/-- Whether joiners stand only where they make a difference: either behind a mark that silences a
vowel, the one that parts letters also between letters that would join. `before` is the start of the
label, the last code point first. -/
def joinersFit (before : List Nat) : List Nat → Bool
  | [] => true
  | code :: rest =>
    (!(code == 0x200c || code == 0x200d) ||
        (before.head?.map combiningClass == some viramaClass) ||
        (code == 0x200c && joins [.following, .both] before && joins [.preceding, .both] rest)) &&
      joinersFit (code :: before) rest

/-- The rules for one label: a length, no mark in front, and no joiner out of place. -/
def isSound (l : Label) : Bool :=
  l.isAscii || (l.length ≤ maxLength && !(l.head?.any isMark) && joinersFit [] l)

def isRightToLeft (d : Direction) : Bool :=
  d == .right || d == .arabicLetter || d == .arabicNumber

/-- The rule for a label of a name that is written from right to left anywhere. Its first letter
gives the direction of the label; there is nothing of the other direction in it, no digits of both
kinds, and at its end a letter or a digit, marks apart. -/
def keepsDirection (l : Label) : Bool :=
  match l.map direction with
  | [] => true
  | first :: rest =>
    let tail := rest.reverse.dropWhile (· == .mark)
    let last := tail.headD first
    if first == .left then
      (last == .left || last == .europeanNumber) && !tail.any isRightToLeft
    else if first == .right || first == .arabicLetter then
      (isRightToLeft last || last == .europeanNumber) && !tail.contains .left &&
        !(tail.contains .europeanNumber && tail.contains .arabicNumber)
    else false

end Label

end KernelWallet.Domain
