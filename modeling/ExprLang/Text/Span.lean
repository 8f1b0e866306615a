/-!
# Spans

A stretch of source text is named by the byte offsets of its two ends, counted in the UTF-8 form of the text.
-/

namespace ExprLang

/-- The stretch of text from byte `start` up to, and without, byte `stop`. -/
structure Span where
  start : Nat
  stop : Nat
  deriving DecidableEq, Repr, Inhabited

namespace Span

/-- From the start of the first stretch to the end of the second. -/
def through (a b : Span) : Span := ⟨a.start, b.stop⟩

/-- The empty stretch at the end of `a`. -/
def after (a : Span) : Span := ⟨a.stop, a.stop⟩

end Span

end ExprLang
