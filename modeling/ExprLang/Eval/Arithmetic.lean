import ExprLang.Eval.Error

/-!
# Arithmetic

A chain of arithmetic is computed from the left, after one kind of number has been chosen for all operands: float if
there is a float among them, uint if all are uint, and int otherwise. Integers are computed exactly, and a result
that does not fit its kind is an overflow.
-/

namespace ExprLang.Arithmetic

/-! ### Integers in range -/

/-- An integer as an `int`, if it fits. -/
def toInt? (n : Int) : Option Int64 :=
  if Int64.minValue.toInt ≤ n ∧ n ≤ Int64.maxValue.toInt then some (Int64.ofInt n) else none

/-- An integer as a `uint`, if it fits. -/
def toUInt? (n : Int) : Option UInt64 :=
  if 0 ≤ n ∧ n.toNat < UInt64.size then some (UInt64.ofNat n.toNat) else none

def toInt (operation : String) (n : Int) : Outcome Int64 :=
  match toInt? n with
  | some k => .ok k
  | none => .error (.overflow operation)

def toUInt (operation : String) (n : Int) : Outcome UInt64 :=
  match toUInt? n with
  | some k => .ok k
  | none => .error (.overflow operation)

/-! ### Single operations -/

/-- One operation on `int`. The remainder of the least `int` by `-1` counts as an overflow, as its quotient does. -/
def intStep (op : BinaryOp) (a b : Int64) : Outcome Int64 :=
  let operation := "integer '" ++ op.text ++ "'"
  match op with
  | .add => toInt operation (a.toInt + b.toInt)
  | .sub => toInt operation (a.toInt - b.toInt)
  | .mul => toInt operation (a.toInt * b.toInt)
  | .div => if b = 0 then .error .divisionByZero else toInt operation (a.toInt.tdiv b.toInt)
  | .mod =>
    if b = 0 then .error .divisionByZero
    else if a = Int64.minValue ∧ b = -1 then .error (.overflow operation)
    else toInt operation (a.toInt.tmod b.toInt)
  | op => .error (.notArithmetic op)

/-- One operation on `uint`. -/
def uintStep (op : BinaryOp) (a b : UInt64) : Outcome UInt64 :=
  let operation := "unsigned '" ++ op.text ++ "'"
  match op with
  | .add => toUInt operation (a.toNat + b.toNat)
  | .sub => toUInt operation (a.toNat - b.toNat)
  | .mul => toUInt operation (a.toNat * b.toNat)
  | .div => if b = 0 then .error .divisionByZero else toUInt operation (a.toNat / b.toNat)
  | .mod => if b = 0 then .error .divisionByZero else toUInt operation (a.toNat % b.toNat)
  | op => .error (.notArithmetic op)

/-- One operation on `float`. A zero of either sign is no divisor. -/
def floatStep (op : BinaryOp) (a b : Float) : Outcome Float :=
  match op with
  | .add => .ok (a + b)
  | .sub => .ok (a - b)
  | .mul => .ok (a * b)
  | .div => if b == 0.0 then .error .divisionByZero else .ok (a / b)
  | .mod => if b == 0.0 then .error .divisionByZero else .ok (Binary64.remainder a b)
  | op => .error (.notArithmetic op)

/-! ### Chains -/

/-- The kind that the operands of a chain are brought to. -/
inductive Promotion where
  | int | uint | float
  deriving DecidableEq, Repr

/-- The common kind of the operands, all of which have to be numbers. -/
def promotion (operators : List BinaryOp) (operands : List Value) : Outcome Promotion :=
  match operands.find? fun v => !v.kind.isNumeric with
  | some bad => .error (.notNumeric operators bad.kind (operands.map Value.kind))
  | none =>
    if operands.any fun v => v.kind = .float then .ok .float
    else if operands.all fun v => v.kind = .uint then .ok .uint
    else .ok .int

/-- A number as a `float`. -/
def asFloat : Value → Float
  | .int n => Binary64.ofInt n.toInt
  | .uint n => Binary64.ofInt n.toNat
  | .float f => f
  | _ => 0.0 / 0.0

/-- An integer as an `int`. -/
def asInt : Value → Outcome Int64
  | .int n => .ok n
  | .uint n => toInt "uint operand as int" n.toNat
  | v => .error (.typeMismatch "int" v.kind)

/-- A `uint`. -/
def asUInt : Value → Outcome UInt64
  | .uint n => .ok n
  | v => .error (.typeMismatch "uint" v.kind)

/-- Computes a chain from the left. Each operand is brought to the common kind by `promote` when its turn comes. -/
def fold {N : Type} (promote : Value → Outcome N) (step : BinaryOp → N → N → Outcome N) :
    N → List (BinaryOp × Value) → Outcome N
  | acc, [] => .ok acc
  | acc, (op, v) :: rest => (promote v).bind fun b => (step op acc b).bind fun acc => fold promote step acc rest

/-- The value of a chain of numbers. -/
def evaluate (first : Value) (following : List (BinaryOp × Value)) : Outcome Value :=
  (promotion (following.map Prod.fst) (first :: following.map Prod.snd)).bind fun
    | .float =>
      (fold (fun v => .ok (asFloat v)) floatStep (asFloat first) following).map .float
    | .uint => ((asUInt first).bind fun a => fold asUInt uintStep a following).map .uint
    | .int => ((asInt first).bind fun a => fold asInt intStep a following).map .int

end ExprLang.Arithmetic
