/-! The powers and the zero of the natural numbers. Both are those of core, also in a module that
knows the natural numbers as a semiring. -/

namespace KernelWallet

@[default_instance 20000]
instance (priority := 1100) powNat : Pow Nat Nat := instPowNat

instance (priority := 1100) zeroNat : Zero Nat := Zero.ofOfNat0

end KernelWallet
