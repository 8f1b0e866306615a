import ExprLang.Number.Binary64

/-!
# Exact numbers

The exact numbers that doubles and integers stand for: a finite double is a dyadic rational, and the infinities lie
beyond every number. Not-a-number has no place in the order.
-/

namespace ExprLang

/-- An exact number, one of the two infinities, or not a number. -/
inductive Exact where
  | nan
  | infinite (negative : Bool)
  | finite (x : Dyadic)
  deriving DecidableEq

namespace Exact

def ofBinary64 : Binary64 → Exact
  | .nan => .nan
  | .infinite negative => .infinite negative
  | .finite negative m e => .finite (.ofIntWithPrec (if negative then -m else m) (-e))

def ofFloat (f : Float) : Exact := ofBinary64 (.ofFloat f)

def ofInt (n : Int) : Exact := .finite (.ofInt n)

theorem ofInt_inj {m n : Int} : ofInt m = ofInt n ↔ m = n := by
  have hrat (n : Int) : (Dyadic.ofInt n).toRat = n := Dyadic.toRat_intCast n
  rw [ofInt, ofInt, finite.injEq, ← Dyadic.toRat_inj, hrat, hrat, Rat.intCast_inj]

theorem ofFloat_eq_nan_iff {f : Float} : ofFloat f = .nan ↔ Binary64.ofFloat f = .nan := by
  rw [ofFloat]
  cases Binary64.ofFloat f <;> simp [ofBinary64]

end Exact

end ExprLang
