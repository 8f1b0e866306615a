import ExprLang.Eval.Arithmetic
import ExprLang.Eval.Function

/-!
# Conversions

The functions `int`, `uint`, `double` and `string`, with one overload for each kind that they convert. Numbers are cut
toward zero; what does not fit is an overflow, and a text that spells no number of the kind is an invalid argument.
-/

namespace ExprLang.Library

/-- The error of a function asked with arguments of the wrong kinds. -/
def mismatch (name : String) (args : List Value) : EvalError := .noMatchingOverload name (args.map Value.kind)

/-- A function of one argument, with an overload for each of the given kinds. -/
def conversion (name : String) (kinds : List Kind) (convert : Value → Outcome Value) : Function where
  name := name
  overloads := kinds.map fun kind =>
    { id := name ++ "_" ++ kind.name
      arity := 1
      receiver := some kind
      call := fun args =>
        match args with
        | [v] => convert v
        | _ => .error (mismatch name args) }

/-- The error of a text that does not spell what the function `name` gives. -/
def notConvertible (v : Value) (name : String) : EvalError :=
  .invalidArgument ("cannot convert " ++ v.text ++ " to " ++ name)

/-- What is given if there is anything to give, and otherwise the error. -/
def orError {α : Type} (e : EvalError) : Option α → Outcome α
  | some a => .ok a
  | none => .error e

/-- A double cut toward zero, as an `int`. The least `int` is a double; the greatest one is none, and the double that
bounds it is the integer behind it. -/
def floatToInt (f : Float) : Outcome Int64 :=
  if f.isNaN ∨ f < -9223372036854775808 ∨ 9223372036854775808 ≤ f then .error (.overflow "double to int conversion")
  else .ok (Binary64.toInt64 (Binary64.truncate f))

/-- A double cut toward zero, as a `uint`. -/
def floatToUInt (f : Float) : Outcome UInt64 :=
  if f.isNaN ∨ f ≤ -1 ∨ 18446744073709551616 ≤ f then .error (.overflow "double to uint conversion")
  else .ok (Binary64.truncate f).toUInt64

def toInt (v : Value) : Outcome Value :=
  match v with
  | .int n => .ok (.int n)
  | .uint n => (Arithmetic.toInt "uint to int conversion" n.toNat).map .int
  | .float f => (floatToInt f).map .int
  | .string s =>
    (orError (notConvertible v "int") ((Decimal.readInt? s.toList).bind Arithmetic.toInt?)).map .int
  | v => .error (mismatch "int" [v])

def toUInt (v : Value) : Outcome Value :=
  match v with
  | .uint n => .ok (.uint n)
  | .int n => (Arithmetic.toUInt "int to uint conversion" n.toInt).map .uint
  | .float f => (floatToUInt f).map .uint
  | .string s =>
    (orError (notConvertible v "uint") ((Decimal.readNat? s.toList).bind fun n => Arithmetic.toUInt? n)).map .uint
  | v => .error (mismatch "uint" [v])

def toDouble (v : Value) : Outcome Value :=
  match v with
  | .float f => .ok (.float f)
  | .int n => .ok (.float (Binary64.ofInt n.toInt))
  | .uint n => .ok (.float (Binary64.ofInt n.toNat))
  | .string s => (orError (notConvertible v "double") (Decimal.readFloat? s.toList)).map .float
  | v => .error (mismatch "double" [v])

def toText (v : Value) : Outcome Value :=
  match v with
  | .string s => .ok (.string s)
  | .bool b => .ok (.string (Literal.bool b).text)
  | .int n => .ok (.string (String.ofList (Digits.writeInt n.toInt)))
  | .uint n => .ok (.string (String.ofList (Digits.write 10 n.toNat 1)))
  | .float f => .ok (.string (Value.floatText f))
  | .bytes bs => (orError (.invalidArgument "bytes are not valid UTF-8") (Utf8.decode? bs)).map .string
  | v => .error (mismatch "string" [v])

/-- The kinds that convert to numbers. -/
def numericOrString : List Kind := [.int, .uint, .float, .string]

def int : Function := conversion "int" numericOrString toInt

def uint : Function := conversion "uint" numericOrString toUInt

def double : Function := conversion "double" numericOrString toDouble

def string : Function := conversion "string" [.string, .bool, .int, .uint, .float, .bytes] toText

end ExprLang.Library
