import KernelWallet.Unicode.Decomposition
import KernelWallet.Unicode.Mark

/-! The composed normal form: all code points are decomposed, marks at one place are put in the
order of their classes, and what can be composed is composed again. -/

namespace KernelWallet.Unicode

/-- Puts marks at one place in the order of their classes, and leaves equal classes as they are. -/
def order (codes : List Nat) : List Nat :=
  (codes.splitBy fun _ code => combiningClass code != 0).flatMap
    (·.mergeSort fun a b => combiningClass a ≤ combiningClass b)

/-- Text that is being composed, the last code point first: what is done, the last code point that
others may join, and the marks behind it that could not. -/
structure Composer where
  done : List Nat := []
  starter : Option Nat := none
  marks : List Nat := []

namespace Composer

def text (c : Composer) : List Nat := c.marks ++ c.starter.toList ++ c.done

/-- Whether a mark behind the starter keeps a code point from joining it. -/
def blocks (c : Composer) (code : Nat) : Bool :=
  match c.marks with
  | mark :: _ => combiningClass code ≤ combiningClass mark
  | [] => false

def step (c : Composer) (code : Nat) : Composer :=
  let joined := if c.blocks code then none else c.starter.bind (compose? · code)
  match joined with
  | some composite => { c with starter := some composite }
  | none =>
    if combiningClass code = 0 then { done := c.text, starter := some code }
    else { c with marks := code :: c.marks }

end Composer

def normalize (codes : List Nat) : List Nat :=
  ((order (codes.flatMap decompose)).foldl Composer.step {}).text.reverse

end KernelWallet.Unicode
