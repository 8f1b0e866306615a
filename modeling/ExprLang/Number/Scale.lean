/-!
# Scaling

Multiplication by a power of a base whose exponent is an integer. Only the numerator of a fraction is scaled when
the exponent is positive, and only the denominator when it is negative, so both stay whole.
-/

namespace ExprLang

/-- The number `n * base ^ e` where `e` is not negative, and `n` otherwise. -/
def scale (base n : Nat) (e : Int) : Nat := n * Nat.pow base e.toNat

end ExprLang
