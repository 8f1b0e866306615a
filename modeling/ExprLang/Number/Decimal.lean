import ExprLang.Number.Binary64
import ExprLang.Number.Digits

/-!
# Decimal numerals

`Decimal` is a number `digits * 10 ^ exponent`. `toBits` rounds it to the nearest double; numbers whose first
digit lies beyond the range of doubles are settled without computing the power of ten. `readFloat?` reads the text
of a double, `readInt?` and `readNat?` the text of an integer.
-/

namespace ExprLang

/-- The number `digits * 10 ^ exponent`. -/
structure Decimal where
  digits : Nat
  exponent : Int
  deriving DecidableEq, Repr

namespace Decimal

/-- The magnitude bits of the double nearest to a decimal number. Doubles end below `10 ^ 309`, and what lies below
`10 ^ (-324)` is nearest to zero. -/
def toBits (d : Decimal) : Nat :=
  if d.digits = 0 then 0
  else
    let top := d.exponent + Digits.count d.digits
    if 309 < top then Binary64.infinityBits
    else if top < -323 then 0
    else Binary64.roundRatio (scale 10 d.digits d.exponent) (scale 10 1 (-d.exponent))

/-- The double nearest to a decimal number, with the given sign. -/
def toFloat (negative : Bool) (d : Decimal) : Float := Binary64.withSign negative d.toBits

/-- The sign in front of a numeral: whether it is a minus, and what follows it. -/
def sign : List Char → Bool × List Char
  | '-' :: cs => (true, cs)
  | '+' :: cs => (false, cs)
  | cs => (false, cs)

/-- The value of an exponent part, which may be absent; it is all that is left of the text. -/
def exponentPart? : List Char → Option Int
  | [] => some 0
  | c :: cs =>
    if c = 'e' ∨ c = 'E' then
      let (negative, ds) := sign cs
      (Digits.value? 10 ds).map fun n => if negative then -n else n
    else none

/-- The number of a numeral without sign: digits, a point and digits, at least one digit in all, and then perhaps
an exponent. -/
def read? (cs : List Char) : Option Decimal :=
  let whole := cs.takeWhile (Digits.isDigit 10)
  let rest := cs.dropWhile (Digits.isDigit 10)
  let (fraction, rest) :=
    match rest with
    | '.' :: r => (r.takeWhile (Digits.isDigit 10), r.dropWhile (Digits.isDigit 10))
    | r => ([], r)
  (Digits.value? 10 (whole ++ fraction)).bind fun n =>
    (exponentPart? rest).map fun e => ⟨n, e - fraction.length⟩

/-- Equality of a text with a lower-case word, letter case aside. -/
def isWord (cs : List Char) (word : String) : Bool := cs.map Char.toLower = word.toList

/-- The double that a text spells: a numeral, infinity or not-a-number, with an optional sign. -/
def readFloat? (cs : List Char) : Option Float :=
  let (negative, cs) := sign cs
  if isWord cs "inf" || isWord cs "infinity" then some (Binary64.withSign negative Binary64.infinityBits)
  else if isWord cs "nan" then some (0.0 / 0.0)
  else (read? cs).map (toFloat negative)

/-- The natural number that a text spells, a plus sign allowed. -/
def readNat? (cs : List Char) : Option Nat :=
  match cs with
  | '+' :: ds => Digits.value? 10 ds
  | ds => Digits.value? 10 ds

/-- The integer that a text spells, with an optional sign. -/
def readInt? (cs : List Char) : Option Int :=
  let (negative, ds) := sign cs
  (Digits.value? 10 ds).map fun n => if negative then -n else n

end Decimal

end ExprLang
