/-!
# Powers

A library that gives numbers a more general power makes `b ^ n` mean
that one wherever it is imported. The instance here comes after all of
those, so a power of numbers is the same term in a module that sees such
a library and in one that does not.
-/

namespace Decorate

instance power {α : Type} [NatPow α] : Pow α Nat := instPowNat

end Decorate
