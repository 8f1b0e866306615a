import ExprLang.Number.Decimal

/-!
# The text of a double

A finite double is written with the fewest digits that read back as it, the nearest such number where there are
two, and the larger where they are equally near. For one, two, … seventeen digits the search tries the two
neighbours of the double among the decimals with that many digits; should none serve, the exact expansion does.

Numbers from `10 ^ (-4)` up to, and without, `10 ^ 16` are written positionally, with at least one digit after the
point; others have an exponent.
-/

namespace ExprLang

namespace Decimal

/-- The exponent `e` with `10 ^ e ≤ num / den < 10 ^ (e + 1)`, for a positive fraction. -/
def floorLog10 (num den : Nat) : Int :=
  if den ≤ num then (Digits.count (num / den) : Int) - 1
  else
    let k := Digits.count (den / num)
    if num * Nat.pow 10 (k - 1) = den then 1 - (k : Int) else -(k : Int)

/-- The two neighbours of `num / den` among the multiples of `10 ^ e`, the nearer one first. -/
def neighbours (num den : Nat) (e : Int) : Decimal × Decimal :=
  let n := scale 10 num (-e)
  let d := scale 10 den e
  let below : Decimal := ⟨n / d, e⟩
  let above : Decimal := ⟨n / d + 1, e⟩
  if 2 * (n % d) < d then (below, above) else (above, below)

/-- The nearest of the neighbours with the given number of digits that rounds to the magnitude `bits`. -/
def withDigits? (num den bits count : Nat) : Option Decimal :=
  let (near, far) := neighbours num den (floorLog10 num den + 1 - count)
  if near.toBits = bits then some near
  else if far.toBits = bits then some far
  else none

/-- The exact expansion of `mantissa * 2 ^ exponent`. -/
def expansion (mantissa : Nat) (exponent : Int) : Decimal :=
  if 0 ≤ exponent then ⟨scale 2 mantissa exponent, 0⟩
  else ⟨scale 5 mantissa (-exponent), exponent⟩

/-- The shortest decimal that rounds to the double `mantissa * 2 ^ exponent` with magnitude `bits`. -/
def shortest (mantissa : Nat) (exponent : Int) (bits : Nat) : Decimal :=
  let num := scale 2 mantissa exponent
  let den := scale 2 1 (-exponent)
  ((List.range 17).findSome? fun n => withDigits? num den bits (n + 1)).getD (expansion mantissa exponent)

/-- The digits of a decimal without the zeros at its end, and the exponent of its first digit. -/
def normal (d : Decimal) : List Char × Int :=
  let ds := Digits.write 10 d.digits 1
  ((ds.reverse.dropWhile (· = '0')).reverse, d.exponent + ds.length - 1)

/-- Digits with the point after the digit whose weight is one; `top` is the exponent of the first digit. -/
def positional (ds : List Char) (top : Int) : List Char :=
  if top < 0 then '0' :: '.' :: List.replicate (-top - 1).toNat '0' ++ ds
  else
    let whole := ds.take (top.toNat + 1)
    let fraction := ds.drop (top.toNat + 1)
    whole ++ List.replicate (top.toNat + 1 - whole.length) '0' ++ '.' ::
      (if fraction.isEmpty then ['0'] else fraction)

/-- Digits with the point after the first one, and an exponent. -/
def scientific (ds : List Char) (top : Int) : List Char :=
  let exponent := 'e' :: (if top < 0 then ['-'] else []) ++ Digits.write 10 top.natAbs 1
  match ds with
  | [] => exponent
  | [d] => d :: exponent
  | d :: fraction => d :: '.' :: fraction ++ exponent

/-- The text of a magnitude, positional in the middle range. -/
def layout (d : Decimal) : List Char :=
  let (ds, top) := normal d
  if -4 ≤ top ∧ top < 16 then positional ds top else scientific ds top

end Decimal

namespace Binary64

/-- The text of the magnitude of a finite double. -/
def magnitudeText (mantissa : Nat) (exponent : Int) (bits : Nat) : List Char :=
  if mantissa = 0 then ['0', '.', '0'] else (Decimal.shortest mantissa exponent bits).layout

/-- The text of a double, given the words for not-a-number and infinity. -/
def write (nan positive negative : String) (f : Float) : String :=
  match ofFloat f with
  | .nan => nan
  | .infinite sign => if sign then negative else positive
  | .finite sign m e =>
    String.ofList ((if sign then ['-'] else []) ++ magnitudeText m e (f.toBits.toNat % signWeight))

end Binary64

end ExprLang
