import ExprLang.Eval.Arithmetic
import ExprLang.Value.Comparison

/-!
# Operations

What the operators, indexes and conditions do to the values of their operands.
-/

namespace ExprLang.Operation

/-! ### Signs -/

/-- The number with the opposite sign. The negation of a `uint` is an `int`. -/
def negate : Value → Outcome Value
  | .int n => (Arithmetic.toInt "integer negation" (-n.toInt)).map .int
  | .uint n => (Arithmetic.toInt "unsigned negation" (-(n.toNat : Int))).map .int
  | .float f => .ok (.float (-f))
  | v => .error (.typeMismatch "int, uint or float" v.kind)

/-- A boolean, as a condition or operand of the given description. -/
def toBool (expected : String) : Value → Outcome Bool
  | .bool b => .ok b
  | v => .error (.typeMismatch expected v.kind)

/-- One operator in front of an operand. -/
def applySign : UnaryOp → Value → Outcome Value
  | .neg, v => negate v
  | .not, v => (toBool "bool" v).map fun b => .bool !b

/-- A run of one operator in front of an operand. -/
def applySigns (op : UnaryOp) : Nat → Value → Outcome Value
  | 0, v => .ok v
  | count + 1, v =>
    match applySign op v with
    | .ok w => applySigns op count w
    | .error e => .error e

/-! ### Comparisons -/

/-- Whether values of the two kinds are ordered among one another. -/
def areOrdered (a b : Kind) : Bool :=
  (a.isNumeric && b.isNumeric) || (a = b && (a = .string || a = .bytes || a = .bool))

/-- The order of two values of ordered kinds; it is absent only when one of them is not a number. -/
def order (op : BinaryOp) (a b : Value) : Outcome (Option Ordering) :=
  if areOrdered a.kind b.kind then .ok (a.compare? b) else .error (.unordered op a.kind b.kind)

/-- Whether `needle` is an item of a list or a key of a map. -/
def isMember (needle : Value) : Value → Outcome Bool
  | .list items => .ok (items.any fun item => needle.equals item)
  | .map m => .ok (Value.find? m needle).isSome
  | v => .error (.typeMismatch "list or map after 'in'" v.kind)

/-- The result of a comparison. -/
def relate (op : BinaryOp) (a b : Value) : Outcome Bool :=
  match op with
  | .eq => .ok (a.equals b)
  | .ne => .ok !(a.equals b)
  | .lt => (order op a b).map fun o => o == some .lt
  | .le => (order op a b).map fun o => o == some .lt || o == some .eq
  | .gt => (order op a b).map fun o => o == some .gt
  | .ge => (order op a b).map fun o => o == some .gt || o == some .eq
  | .member => isMember a b
  | op => .error (.notRelational op)

/-! ### Chains -/

/-- The value that an operand of a chain of the level must have: a boolean between logical operators, and any value
between others. -/
def checkOperand : Level → Value → Outcome Value
  | .or, v | .and, v => (toBool "bool" v).map .bool
  | _, v => .ok v

/-- The lists, texts or byte strings one after the other, when the values are all of one of these kinds. -/
def concat? : List Value → Option Value
  | .list items :: vs => (vs.mapM Value.list?).map fun lists => .list (items ++ lists.flatten)
  | .string s :: vs => (vs.mapM Value.string?).map fun texts => .string (s ++ String.join texts)
  | .bytes bs :: vs => (vs.mapM Value.bytes?).map fun parts => .bytes (bs ++ parts.flatten)
  | _ => none

/-- The value of a chain, given those of its operands. -/
def combine (level : Level) (first : Value) (following : List (BinaryOp × Value)) : Outcome Value :=
  let operands := first :: following.map Prod.snd
  match level with
  | .or => .ok (.bool (operands.any fun v => v.bool? == some true))
  | .and => .ok (.bool (operands.all fun v => v.bool? == some true))
  | .additive =>
    match if following.all fun p => p.1 = .add then concat? operands else none with
    | some v => .ok v
    | none => Arithmetic.evaluate first following
  | .multiplicative => Arithmetic.evaluate first following

/-! ### Indexes -/

/-- The position that an index means. -/
def position? : Value → Outcome (Option Nat)
  | .int n => .ok (if 0 ≤ n.toInt then some n.toInt.toNat else none)
  | .uint n => .ok (some n.toNat)
  | v => .error (.typeMismatch "int or uint list index" v.kind)

/-- The key that an index means. Booleans, though keys, are no indexes. -/
def indexKey : Value → Outcome Key
  | .string s => .ok (.string s)
  | .int n => .ok (.int n)
  | .uint n => .ok (.uint n)
  | v => .error (.typeMismatch "string, int or uint map key" v.kind)

/-- The item of a list or value of a map at an index. A key of a map has to be of the same kind as the index. -/
def index (container i : Value) : Outcome Value :=
  match container with
  | .list items =>
    (position? i).bind fun p =>
      match p.bind fun p => items[p]? with
      | some v => .ok v
      | none => .error (.indexOutOfRange i items.length)
  | .map m =>
    (indexKey i).bind fun k =>
      match m.get? k with
      | some v => .ok v
      | none => .error (.keyNotFound i)
  | v => .error (.typeMismatch "list or map" v.kind)

/-- The key that a value is in a map literal. -/
def entryKey (v : Value) : Outcome Key :=
  match v.key? with
  | some k => .ok k
  | none => .error (.typeMismatch "bool, int, uint or string map key" v.kind)

end ExprLang.Operation
