/-!
# Digits

Positional numerals in a base up to 36: `value?` reads a run of digits, `write` spells a number, with a least
width when one is asked for. A numeral is a run of at least one digit.
-/

namespace ExprLang.Digits

/-- The value of a digit in the given base. -/
def digit? (base : Nat) (c : Char) : Option Nat :=
  let d :=
    if '0' ≤ c ∧ c ≤ '9' then c.toNat - '0'.toNat
    else if 'a' ≤ c ∧ c ≤ 'z' then c.toNat - 'a'.toNat + 10
    else if 'A' ≤ c ∧ c ≤ 'Z' then c.toNat - 'A'.toNat + 10
    else base
  if d < base then some d else none

/-- Whether `c` is a digit in the given base. -/
def isDigit (base : Nat) (c : Char) : Bool := (digit? base c).isSome

/-- Continues the value `n` with further digits. -/
def valueFrom? (base : Nat) (n : Nat) : List Char → Option Nat
  | [] => some n
  | c :: cs => (digit? base c).bind fun d => valueFrom? base (n * base + d) cs

/-- The value of a numeral. -/
def value? (base : Nat) : List Char → Option Nat
  | [] => none
  | c :: cs => valueFrom? base 0 (c :: cs)

/-- The value of the numeral formed by the first `count` characters. -/
def fixed? (base count : Nat) (cs : List Char) : Option Nat :=
  if count ≤ cs.length then value? base (cs.take count) else none

/-- The length of the run of digits that `cs` begins with. -/
def runLength (base : Nat) (cs : List Char) : Nat := (cs.takeWhile (isDigit base)).length

/-- The numeral of `n`, with zeros in front up to the given width. -/
def write (base n width : Nat) : List Char :=
  let ds := Nat.toDigits base n
  List.replicate (width - ds.length) '0' ++ ds

/-- The decimal numeral of an integer. -/
def writeInt (n : Int) : List Char := (if n < 0 then ['-'] else []) ++ write 10 n.natAbs 1

/-- The number of decimal digits of `n`. -/
def count (n : Nat) : Nat := (Nat.toDigits 10 n).length

end ExprLang.Digits
