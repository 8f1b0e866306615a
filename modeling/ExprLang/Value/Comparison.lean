import ExprLang.Value.Basic

/-!
# Equality and order of values

`equals` is the equality of the language: numbers are equal when neither comes before the other, whatever their
kinds; lists item by item; maps when their keys pair off and paired values are equal. Nothing equals a
not-a-number. `identical` asks for the same kinds as well, at every depth.

`compare?` orders numbers exactly and across kinds, and texts, byte strings and booleans among themselves. All other
values have no order, and not-a-number has none either. An integer is ordered against the whole part of a double, and
the fraction counts only where the two are equal, so neither is rounded.
-/

namespace ExprLang.Value

/-! ### Order -/

/-- The order of a signed and an unsigned integer. -/
def compareIntUInt (a : Int64) (b : UInt64) : Ordering :=
  if 0 ≤ a then compareOfLessAndEq a.toUInt64 b else .lt

/-- The order of two doubles, unless one of them is not a number. -/
def compareFloat? (a b : Float) : Option Ordering :=
  if a < b then some .lt else if a == b then some .eq else if b < a then some .gt else none

/-- How an integer compares to itself plus a fraction. -/
def fractionOrder (fraction : Float) : Ordering :=
  if 0 < fraction then .lt else if fraction < 0 then .gt else .eq

/-- The order of an integer and a double, for an integer of at least `low` and below `high` whose order with the whole
part of the double is that given by `compareWhole`. -/
def compareToFloat? (low high : Float) (compareWhole : Float → Ordering) (b : Float) : Option Ordering :=
  if b.isNaN then none
  else if high ≤ b then some .lt
  else if b < low then some .gt
  else
    let whole := Binary64.truncate b
    some ((compareWhole whole).then (fractionOrder (b - whole)))

/-- The order of a signed integer and a double. -/
def compareIntFloat? (a : Int64) (b : Float) : Option Ordering :=
  compareToFloat? (-9223372036854775808) 9223372036854775808
    (fun whole => compareOfLessAndEq a (Binary64.toInt64 whole)) b

/-- The order of an unsigned integer and a double. -/
def compareUIntFloat? (a : UInt64) (b : Float) : Option Ordering :=
  compareToFloat? 0 18446744073709551616 (fun whole => compareOfLessAndEq a whole.toUInt64) b

/-- The order of two values, where they have one. -/
def compare? : Value → Value → Option Ordering
  | bool a, bool b => some (compareOfLessAndEq a b)
  | int a, int b => some (compareOfLessAndEq a b)
  | uint a, uint b => some (compareOfLessAndEq a b)
  | float a, float b => compareFloat? a b
  | string a, string b => some (compareOfLessAndEq a b)
  | bytes a, bytes b => some (compareOfLessAndEq a b)
  | int a, uint b => some (compareIntUInt a b)
  | uint a, int b => some (compareIntUInt b a).swap
  | int a, float b => compareIntFloat? a b
  | float a, int b => (compareIntFloat? b a).map Ordering.swap
  | uint a, float b => compareUIntFloat? a b
  | float a, uint b => (compareUIntFloat? b a).map Ordering.swap
  | _, _ => none

/-! ### Equality -/

mutual

/-- The equality of the language. -/
def equals : Value → Value → Bool
  | null, null => true
  | bool a, bool b => a == b
  | string a, string b => a == b
  | bytes a, bytes b => a == b
  | list a, list b => equalItems a b
  | map a, map b =>
    a.size == b.size && (List.finRange a.keys.length).all fun i =>
      match a.partner? b (a.keys.get i) with
      | some w => (a.value i).equals w
      | none => false
  | a, b => a.kind.isNumeric && b.kind.isNumeric && a.compare? b == some .eq
  termination_by structural a => a

/-- Equality of two lists, item by item. -/
def equalItems : List Value → List Value → Bool
  | [], [] => true
  | v :: vs, w :: ws => v.equals w && equalItems vs ws
  | _, _ => false
  termination_by structural a => a

end

mutual

/-- Equality with the same kinds at every depth. -/
def identical : Value → Value → Bool
  | null, null => true
  | bool a, bool b => a == b
  | int a, int b => a == b
  | uint a, uint b => a == b
  | float a, float b => a == b
  | string a, string b => a == b
  | bytes a, bytes b => a == b
  | list a, list b => identicalItems a b
  | map a, map b =>
    if h : a.keys = b.keys then
      (List.finRange a.keys.length).all fun i => (a.value i).identical (b.value (i.cast (by rw [h])))
    else false
  | _, _ => false
  termination_by structural a => a

/-- Identity of two lists, item by item. -/
def identicalItems : List Value → List Value → Bool
  | [], [] => true
  | v :: vs, w :: ws => v.identical w && identicalItems vs ws
  | _, _ => false
  termination_by structural a => a

end

end ExprLang.Value
