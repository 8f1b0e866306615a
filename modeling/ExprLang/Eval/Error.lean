import ExprLang.Syntax.Operator
import ExprLang.Value.Text

/-!
# Evaluation errors

An error is its cause; `kind` sorts the causes into eight kinds and `message` describes them.
-/

namespace ExprLang

/-- The kinds of evaluation errors. -/
inductive ErrorKind where
  | unknownIdentifier | unknownFunction | typeMismatch | indexOutOfRange | keyNotFound | divisionByZero | overflow
  | invalidArgument
  deriving DecidableEq, Repr

def ErrorKind.text : ErrorKind → String
  | unknownIdentifier => "unknown identifier"
  | unknownFunction => "unknown function"
  | typeMismatch => "type mismatch"
  | indexOutOfRange => "index out of range"
  | keyNotFound => "key not found"
  | divisionByZero => "division by zero"
  | overflow => "overflow"
  | invalidArgument => "invalid argument"

/-- Why an evaluation has no value. -/
inductive EvalError where
  | unknownIdentifier (name : String)
  /-- no function of the name takes that many arguments -/
  | unknownFunction (name : String) (arity : Nat)
  /-- what is called is not a name -/
  | notCallable
  | typeMismatch (expected : String) (actual : Kind)
  /-- functions of the name take that many arguments, but not of these kinds -/
  | noMatchingOverload (name : String) (kinds : List Kind)
  /-- values of two kinds that are not ordered among one another -/
  | unordered (op : BinaryOp) (left right : Kind)
  /-- a chain of arithmetic with the kinds of its operands, of which the first that is not numeric is `bad` -/
  | notNumeric (operators : List BinaryOp) (bad : Kind) (operands : List Kind)
  | notRelational (op : BinaryOp)
  | notArithmetic (op : BinaryOp)
  | indexOutOfRange (index : Value) (length : Nat)
  | keyNotFound (key : Value)
  | divisionByZero
  | overflow (operation : String)
  | invalidArgument (message : String)
  /-- an error that a function outside the library reports -/
  | other (kind : ErrorKind) (message : String)

namespace EvalError

def kind : EvalError → ErrorKind
  | unknownIdentifier _ => .unknownIdentifier
  | unknownFunction _ _ | notCallable => .unknownFunction
  | typeMismatch _ _ | noMatchingOverload _ _ | unordered _ _ _ | notNumeric _ _ _ | notRelational _
  | notArithmetic _ => .typeMismatch
  | indexOutOfRange _ _ => .indexOutOfRange
  | keyNotFound _ => .keyNotFound
  | divisionByZero => .divisionByZero
  | overflow _ => .overflow
  | invalidArgument _ => .invalidArgument
  | other kind _ => kind

private def decimal (n : Nat) : String := String.ofList (Digits.write 10 n 1)

def message : EvalError → String
  | unknownIdentifier name => "'" ++ name ++ "'"
  | unknownFunction name arity => "'" ++ name ++ "' with " ++ decimal arity ++ " argument(s)"
  | notCallable => "call target is not a function name"
  | typeMismatch expected actual => "expected " ++ expected ++ ", got " ++ actual.name
  | noMatchingOverload name kinds =>
    "no matching overload for " ++ name ++ "(" ++ Value.commas (kinds.map Kind.name) ++ ")"
  | unordered op left right => "cannot apply '" ++ op.text ++ "' to " ++ left.name ++ " and " ++ right.name
  | notNumeric operators bad operands =>
    "cannot apply '" ++ "', '".intercalate (operators.map BinaryOp.text) ++ "' to " ++ bad.name ++ " (operands: " ++
      Value.commas (operands.map Kind.name) ++ ")"
  | notRelational op => "'" ++ op.text ++ "' is not a relational operator"
  | notArithmetic op => "'" ++ op.text ++ "' is not an arithmetic operator"
  | indexOutOfRange index length => "index " ++ index.text ++ " out of range for list of length " ++ decimal length
  | keyNotFound key => key.text
  | divisionByZero => "divisor is zero"
  | overflow operation => operation ++ " is out of range"
  | invalidArgument message => message
  | other _ message => message

/-- The kind and the message. -/
def report (e : EvalError) : String := e.kind.text ++ ": " ++ e.message

end EvalError

/-- A value or the error that stands in its place. -/
abbrev Outcome := Except EvalError

end ExprLang
