import ExprLang.Number.Scale

/-!
# Doubles

A double is not a number, an infinity, or a signed multiple `mantissa * 2 ^ exponent` of a power of two.
`ofFloat` takes the bits of a double apart. `roundRatio` finds the magnitude nearest to a fraction, with halves
going to the even neighbour; it is given as the bits of the double without its sign, so that the carry into the
next power of two and the step to infinity are the carries of ordinary addition.
-/

namespace ExprLang

/-- What a double stands for. Zero keeps its sign, with mantissa `0`. -/
inductive Binary64 where
  | nan
  | infinite (negative : Bool)
  | finite (negative : Bool) (mantissa : Nat) (exponent : Int)
  deriving DecidableEq, Repr

namespace Binary64

/-- The weight of the sign bit. -/
def signWeight : Nat := Nat.pow 2 63

/-- The weight of the lowest bit of the exponent, which is the number of fractions. -/
def exponentWeight : Nat := Nat.pow 2 52

/-- The sign bit of a double. -/
def signBit (f : Float) : Bool := signWeight ≤ f.toBits.toNat

/-- What the bits of a double stand for. -/
def ofFloat (f : Float) : Binary64 :=
  let negative := signBit f
  let exponent : Nat := f.toBits.toNat / exponentWeight % 2048
  let fraction : Nat := f.toBits.toNat % exponentWeight
  if exponent = 2047 then
    if fraction = 0 then .infinite negative else .nan
  else if exponent = 0 then .finite negative fraction (-1074)
  else .finite negative (exponentWeight + fraction) ((exponent : Int) - 1075)

/-- The double with the given sign and magnitude bits. -/
def withSign (negative : Bool) (magnitude : Nat) : Float :=
  Float.ofBits (UInt64.ofNat (if negative then signWeight + magnitude else magnitude))

/-- The magnitude bits of infinity. -/
def infinityBits : Nat := 2047 * exponentWeight

/-- The whole number nearest to `num / den`, a half going to the even one. -/
def roundQuotient (num den : Nat) : Nat :=
  let whole := num / den
  let rest := num % den
  if 2 * rest < den then whole
  else if den < 2 * rest then whole + 1
  else whole + whole % 2

/-- The exponent `e` with `2 ^ e ≤ num / den < 2 ^ (e + 1)`, for a positive fraction. -/
def floorLog2 (num den : Nat) : Int :=
  let e : Int := (num.log2 : Int) - den.log2
  if scale 2 num (-e) < scale 2 den e then e - 1 else e

/-- The magnitude bits of the double nearest to `num / den`. -/
def roundRatio (num den : Nat) : Nat :=
  if num = 0 then 0
  else
    let q := max (floorLog2 num den - 52) (-1074)
    let mantissa := roundQuotient (scale 2 num (-q)) (scale 2 den q)
    min ((q + 1074).toNat * exponentWeight + mantissa) infinityBits

/-- The double nearest to an integer. -/
def ofInt (n : Int) : Float := withSign (n < 0) (roundRatio n.natAbs 1)

/-- The whole part of a magnitude. -/
def whole (mantissa : Nat) (exponent : Int) : Nat := scale 2 mantissa exponent / scale 2 1 (-exponent)

/-- A double cut toward zero; a zero keeps the sign. -/
def truncate (f : Float) : Float :=
  match ofFloat f with
  | .finite negative m e => withSign negative (roundRatio (whole m e) 1)
  | _ => f

/-- The remainder of the division of two doubles that cuts the quotient toward zero. It is exact, and has the sign
of the dividend, also as a zero. -/
def remainder (x y : Float) : Float :=
  match ofFloat x, ofFloat y with
  | .finite negative m e, .finite _ n f =>
    if n = 0 then 0.0 / 0.0
    else
      let g := min e f
      let rest := scale 2 m (e - g) % scale 2 n (f - g)
      withSign negative (roundRatio (scale 2 rest g) (scale 2 1 (-g)))
  | .finite .., .infinite _ => x
  | _, _ => 0.0 / 0.0

/-- The signed integer of a double cut toward zero, or the nearest one where there is none. -/
def toInt64 (f : Float) : Int64 := f.toModel.toInt64

end Binary64

end ExprLang
