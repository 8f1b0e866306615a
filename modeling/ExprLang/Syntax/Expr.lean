import ExprLang.Syntax.Chain
import ExprLang.Token.Basic

/-!
# Expressions

The tree of an expression. Each node carries a note, which is its span in trees that were read from a text; `mapNote`
changes the notes, and `erase` drops them, so that two trees with the same `erase` differ in layout only.

A run of operators of one level is one node with a chain of operands. A method call `r.f(a)` is the call of `f` with
`r` as its first argument.
-/

namespace ExprLang

/-- The tree of an expression with notes in `α`. -/
inductive Expr (α : Type) where
  | literal (note : α) (l : Literal)
  | name (note : α) (s : String)
  | list (note : α) (items : List (Expr α))
  | map (note : α) (entries : List (Expr α × Expr α))
  /-- `count` times the same operator in front of an operand -/
  | unary (note : α) (op : UnaryOp) (count : Nat) (operand : Expr α)
  | chain (note : α) (level : Level) (c : Chain (Expr α))
  | relation (note : α) (op : BinaryOp) (left right : Expr α)
  | ternary (note : α) (cond yes no : Expr α)
  | index (note : α) (base position : Expr α)
  | call (note : α) (callee : Expr α) (args : List (Expr α))

namespace Expr

variable {α β : Type}

/-- The note of the root. -/
def note : Expr α → α
  | literal a _ | name a _ | list a _ | map a _ | unary a _ _ _ | chain a _ _ | relation a _ _ _
  | ternary a _ _ _ | index a _ _ | call a _ _ => a

mutual

/-- The same tree with the notes changed by `f`. -/
def mapNote (f : α → β) : Expr α → Expr β
  | literal a l => literal (f a) l
  | name a s => name (f a) s
  | list a items => list (f a) (mapItems f items)
  | map a entries => map (f a) (mapEntries f entries)
  | unary a op count e => unary (f a) op count (e.mapNote f)
  | chain a level ⟨first, op, second, rest⟩ =>
    chain (f a) level ⟨first.mapNote f, op, second.mapNote f, mapFollowing f rest⟩
  | relation a op l r => relation (f a) op (l.mapNote f) (r.mapNote f)
  | ternary a c y n => ternary (f a) (c.mapNote f) (y.mapNote f) (n.mapNote f)
  | index a b i => index (f a) (b.mapNote f) (i.mapNote f)
  | call a callee args => call (f a) (callee.mapNote f) (mapItems f args)

def mapItems (f : α → β) : List (Expr α) → List (Expr β)
  | [] => []
  | e :: es => e.mapNote f :: mapItems f es

def mapEntries (f : α → β) : List (Expr α × Expr α) → List (Expr β × Expr β)
  | [] => []
  | (k, v) :: es => (k.mapNote f, v.mapNote f) :: mapEntries f es

def mapFollowing (f : α → β) : List (BinaryOp × Expr α) → List (BinaryOp × Expr β)
  | [] => []
  | (op, e) :: es => (op, e.mapNote f) :: mapFollowing f es

end

/-- The tree without its notes. -/
def erase (e : Expr α) : Expr Unit := e.mapNote fun _ => ()

end Expr

end ExprLang
