import ExprLang.Eval.Bindings
import ExprLang.Eval.Function
import ExprLang.Eval.Operation
import ExprLang.Syntax.Expr

/-!
# Evaluation

The value of an expression in a context, which says what names and functions mean. Operands are evaluated from the
left, all of them, also those of logical operators; of a condition's two branches only the one that is taken. The
first error is the outcome. The notes of a tree have no part in it.
-/

namespace ExprLang

/-- What names and functions mean. -/
structure Context where
  scope : Scope
  functions : Registry

namespace Expr

variable {α : Type}

mutual

/-- The value of an expression. -/
def eval (c : Context) : Expr α → Outcome Value
  | literal _ l => .ok l.toValue
  | name _ s =>
    match c.scope s with
    | some v => .ok v
    | none => .error (.unknownIdentifier s)
  | list _ items => (evalItems c items).map .list
  | map _ entries => (evalEntries c entries).map .ofEntries
  | unary _ op count e => (e.eval c).bind fun v => Operation.applySigns op count v
  | chain _ level ⟨first, op, second, rest⟩ =>
    ((first.eval c).bind (Operation.checkOperand level)).bind fun a =>
      ((second.eval c).bind (Operation.checkOperand level)).bind fun b =>
        (evalFollowing c level rest).bind fun more => Operation.combine level a ((op, b) :: more)
  | relation _ op l r =>
    (l.eval c).bind fun a => (r.eval c).bind fun b => (Operation.relate op a b).map .bool
  | ternary _ cond yes no =>
    (cond.eval c).bind fun v => (Operation.toBool "bool condition" v).bind fun b =>
      if b then yes.eval c else no.eval c
  | index _ base position =>
    (base.eval c).bind fun v => (position.eval c).bind fun i => Operation.index v i
  | call _ callee args =>
    match callee with
    | name _ f => (evalItems c args).bind fun vs => c.functions.dispatch f vs
    | _ => .error .notCallable
  termination_by structural e => e

/-- The values of expressions, from the left. -/
def evalItems (c : Context) : List (Expr α) → Outcome (List Value)
  | [] => .ok []
  | e :: es => (e.eval c).bind fun v => (evalItems c es).map fun vs => v :: vs
  termination_by structural es => es

/-- The entries of a map literal, from the left; each key before its value. -/
def evalEntries (c : Context) : List (Expr α × Expr α) → Outcome (List (Key × Value))
  | [] => .ok []
  | (k, v) :: es =>
    (k.eval c).bind fun a => (v.eval c).bind fun b => (Operation.entryKey a).bind fun key =>
      (evalEntries c es).map fun entries => (key, b) :: entries
  termination_by structural es => es

/-- The values of the operands behind the operators of a chain, from the left. -/
def evalFollowing (c : Context) (level : Level) : List (BinaryOp × Expr α) → Outcome (List (BinaryOp × Value))
  | [] => .ok []
  | (op, e) :: es =>
    ((e.eval c).bind (Operation.checkOperand level)).bind fun v =>
      (evalFollowing c level es).map fun more => (op, v) :: more
  termination_by structural es => es

end

end Expr

end ExprLang
