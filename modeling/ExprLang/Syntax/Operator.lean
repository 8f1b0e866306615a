/-!
# Operators

The two signs in front of an operand and the operators between operands. The levels are the four kinds of runs of
operators that read from the left, from the weakest to the strongest; comparisons stand between `and` and
`additive` and form no runs.
-/

namespace ExprLang

/-- An operator in front of an operand. -/
inductive UnaryOp where
  | neg | not
  deriving DecidableEq, Repr

/-- An operator between two operands. -/
inductive BinaryOp where
  | add | sub | mul | div | mod
  | eq | ne | lt | le | gt | ge
  | member
  | and | or
  deriving DecidableEq, Repr

/-- A level of operators that form runs. -/
inductive Level where
  | or | and | additive | multiplicative
  deriving DecidableEq, Repr

/-- The spelling of an operator. -/
def UnaryOp.text : UnaryOp → String
  | neg => "-"
  | not => "!"

/-- The spelling of an operator. -/
def BinaryOp.text : BinaryOp → String
  | add => "+"
  | sub => "-"
  | mul => "*"
  | div => "/"
  | mod => "%"
  | eq => "=="
  | ne => "!="
  | lt => "<"
  | le => "<="
  | gt => ">"
  | ge => ">="
  | member => "in"
  | and => "&&"
  | or => "||"

/-- All operators between operands. -/
def BinaryOp.all : List BinaryOp := [add, sub, mul, div, mod, eq, ne, lt, le, gt, ge, member, and, or]

end ExprLang
