import ExprLang.Syntax.Expr

/-!
# Trees without notes

`Expr.erase` node by node: it keeps each node and goes on with the children.
-/

namespace ExprLang

/-- A tree without notes. -/
abbrev Tree := Expr Unit

namespace Expr

variable {α : Type}

private theorem mapItems_erase (es : List (Expr α)) : mapItems (fun _ => ()) es = es.map erase := by
  induction es with
  | nil => rfl
  | cons e es ih => rw [mapItems, ih]; rfl

private theorem mapEntries_erase (es : List (Expr α × Expr α)) :
    mapEntries (fun _ => ()) es = es.map (Prod.map erase erase) := by
  induction es with
  | nil => rfl
  | cons e es ih => rw [mapEntries, ih]; rfl

private theorem mapFollowing_erase (es : List (BinaryOp × Expr α)) :
    mapFollowing (fun _ => ()) es = es.map (Prod.map id erase) := by
  induction es with
  | nil => rfl
  | cons e es ih => rw [mapFollowing, ih]; rfl

@[simp] theorem erase_literal (a : α) (l : Literal) : (literal a l).erase = literal () l := rfl

@[simp] theorem erase_name (a : α) (s : String) : (name a s).erase = name () s := rfl

@[simp] theorem erase_list (a : α) (es : List (Expr α)) : (list a es).erase = list () (es.map erase) :=
  congrArg _ (mapItems_erase es)

@[simp] theorem erase_map (a : α) (es : List (Expr α × Expr α)) :
    (map a es).erase = map () (es.map (Prod.map erase erase)) :=
  congrArg _ (mapEntries_erase es)

@[simp] theorem erase_unary (a : α) (op : UnaryOp) (k : Nat) (e : Expr α) :
    (unary a op k e).erase = unary () op k e.erase := rfl

@[simp] theorem erase_chain (a : α) (level : Level) (first : Expr α) (op : BinaryOp) (second : Expr α)
    (rest : List (BinaryOp × Expr α)) : (chain a level ⟨first, op, second, rest⟩).erase =
      chain () level ⟨first.erase, op, second.erase, rest.map (Prod.map id erase)⟩ := by
  rw [← mapFollowing_erase]; rfl

@[simp] theorem erase_relation (a : α) (op : BinaryOp) (l r : Expr α) :
    (relation a op l r).erase = relation () op l.erase r.erase := rfl

@[simp] theorem erase_ternary (a : α) (c y n : Expr α) :
    (ternary a c y n).erase = ternary () c.erase y.erase n.erase := rfl

@[simp] theorem erase_index (a : α) (b i : Expr α) : (index a b i).erase = index () b.erase i.erase := rfl

@[simp] theorem erase_call (a : α) (f : Expr α) (args : List (Expr α)) :
    (call a f args).erase = call () f.erase (args.map erase) :=
  congrArg _ (mapItems_erase args)

end Expr

end ExprLang
