import ExprLang.Syntax.Operator

/-!
# Chains

A chain is a run of at least two operands with an operator between each two neighbours. The type has no room for
fewer operands or for a missing operator, so `operands` is always one longer than `operators`. Three ways to make a
chain agree: from its two lists, from its first two operands and pushes, and field by field.
-/

namespace ExprLang

/-- A run `first op second …` of at least two operands; `rest` holds each further operand behind its operator. -/
structure Chain (ε : Type) where
  first : ε
  op : BinaryOp
  second : ε
  rest : List (BinaryOp × ε)
  deriving Repr, DecidableEq

namespace Chain

variable {ε δ : Type}

/-- The operands behind the first one, each with the operator in front of it. -/
def following (c : Chain ε) : List (BinaryOp × ε) := (c.op, c.second) :: c.rest

def operands (c : Chain ε) : List ε := c.first :: c.following.map Prod.snd

def operators (c : Chain ε) : List BinaryOp := c.following.map Prod.fst

/-- The chain of two operands. -/
def pair (first : ε) (op : BinaryOp) (second : ε) : Chain ε := ⟨first, op, second, []⟩

/-- One more operand at the end. -/
def push (c : Chain ε) (op : BinaryOp) (operand : ε) : Chain ε := { c with rest := c.rest ++ [(op, operand)] }

/-- The last operand. -/
def last (c : Chain ε) : ε := (c.rest.getLast?.map Prod.snd).getD c.second

/-- The chain with the given operands and operators, where their numbers fit. -/
def ofParts? : List ε → List BinaryOp → Option (Chain ε)
  | a :: b :: operands, op :: operators =>
    if operands.length = operators.length then some ⟨a, op, b, operators.zip operands⟩ else none
  | _, _ => none

def map (f : ε → δ) (c : Chain ε) : Chain δ := ⟨f c.first, c.op, f c.second, c.rest.map fun (op, e) => (op, f e)⟩

theorem length_operands (c : Chain ε) : c.operands.length = c.operators.length + 1 := by
  simp [operands, operators]

theorem getLast?_operands (c : Chain ε) : c.operands.getLast? = some c.last := by
  simp [operands, following, last, List.getLast?_cons, List.getLast?_map]

theorem operands_push (c : Chain ε) (op : BinaryOp) (e : ε) : (c.push op e).operands = c.operands ++ [e] := by
  simp [push, operands, following]

theorem operators_push (c : Chain ε) (op : BinaryOp) (e : ε) : (c.push op e).operators = c.operators ++ [op] := by
  simp [push, operators, following]

end Chain

end ExprLang
