import ExprLang.Proofs.Eval.Operands

/-!
# Negated chains

A logical chain is the disjunction or conjunction of the booleans of its operands, all of which are evaluated and
checked from the left (`eval_or`, `eval_and`). An operand fails exactly as its negation does (`evalBool_negation`), so
De Morgan's laws hold of outcomes: the negation of a chain is the chain of the other level with the negated operands,
also where an operand fails or is no boolean (`eval_not_chain`).
-/

namespace ExprLang

/-- The logical level that the negation of a chain has. -/
def Level.dual : Level → Level
  | or => and
  | and => or
  | level => level

/-- The operator of a run that is longer by one is applied once more at the end. -/
theorem Operation.applySigns_succ (op : UnaryOp) (count : Nat) (v : Value) :
    applySigns op (count + 1) v = (applySigns op count v).bind (applySign op) := by
  induction count generalizing v with
  | zero =>
    change _ = applySign op v
    rw [applySigns]
    cases applySign op v <;> rfl
  | succ count ih =>
    rw [applySigns, applySigns]
    cases applySign op v with
    | error err => rfl
    | ok w => exact ih w

/-- Outcomes that become the same under functions of their values fail alike or have values that become the same. -/
theorem Outcome.cases_of_map_eq {β γ δ : Type} {f : β → δ} {g : γ → δ} {x : Outcome β} {y : Outcome γ}
    (h : x.map f = y.map g) :
    (∃ err, x = .error err ∧ y = .error err) ∨ ∃ b c, x = .ok b ∧ y = .ok c ∧ f b = g c := by
  cases x with
  | error err =>
    cases y with
    | error err' => exact .inl ⟨err, rfl, by rw [Except.error.inj h]⟩
    | ok c => cases h
  | ok b =>
    cases y with
    | error err => cases h
    | ok c => exact .inr ⟨b, c, rfl, rfl, Except.ok.inj h⟩

namespace Expr

variable {α : Type}

/-- The first expression is the second one with one more `!` in front. Where that one begins with a run of `!`, the run
becomes longer, or the whole of it is the operand of another run. -/
inductive IsNegation : Expr α → Expr α → Prop
  | around (a : α) (e : Expr α) : IsNegation (unary a .not 1 e) e
  | longer (a b : α) (count : Nat) (e : Expr α) : IsNegation (unary a .not (count + 1) e) (unary b .not count e)

/-- The boolean that an expression is. -/
def evalBool (ctx : Context) (e : Expr α) : Outcome Bool := (e.eval ctx).bind (Operation.toBool "bool")

/-- The booleans that expressions are, from the left. -/
def evalBools (ctx : Context) : List (Expr α) → Outcome (List Bool)
  | [] => .ok []
  | e :: es => (e.evalBool ctx).bind fun b => (evalBools ctx es).map fun bs => b :: bs

variable (ctx : Context) (note : α)

/-! ### Chains of booleans -/

section Chains

variable {level : Level}

theorem checkOperand_eval (hlevel : level = .or ∨ level = .and) (e : Expr α) :
    (e.eval ctx).bind (Operation.checkOperand level) = (e.evalBool ctx).map .bool := by
  rw [evalBool]
  cases e.eval ctx with
  | error err => rfl
  | ok v => rcases hlevel with rfl | rfl <;> rfl

/-- The operands behind the operators of a logical chain are booleans. -/
theorem evalFollowing_logical (hlevel : level = .or ∨ level = .and) (es : List (BinaryOp × Expr α)) :
    (evalFollowing ctx level es).map (List.map Prod.snd) = (evalBools ctx (es.map Prod.snd)).map (List.map .bool) := by
  induction es with
  | nil => rfl
  | cons p es ih =>
    obtain ⟨op, e⟩ := p
    rw [evalFollowing, checkOperand_eval ctx hlevel, List.map_cons, evalBools]
    cases e.evalBool ctx with
    | error err => rfl
    | ok b =>
      calc
        _ = ((evalFollowing ctx level es).map (List.map Prod.snd)).map (Value.bool b :: ·) := by
          cases evalFollowing ctx level es <;> rfl
        _ = ((evalBools ctx (es.map Prod.snd)).map (List.map .bool)).map (Value.bool b :: ·) := by rw [ih]
        _ = _ := by cases evalBools ctx (es.map Prod.snd) <;> rfl

/-- A logical chain folds the booleans of its operands, in the way its level folds their values. -/
theorem eval_logical (hlevel : level = .or ∨ level = .and) {fold : List Bool → Bool} (c : Chain (Expr α))
    (hfold : ∀ b following bs, following.map Prod.snd = bs.map Value.bool →
      Operation.combine level (.bool b) following = .ok (.bool (fold (b :: bs)))) :
    (chain note level c).eval ctx = (evalBools ctx c.operands).map fun bs => .bool (fold bs) := by
  rw [eval_chain_following, checkOperand_eval ctx hlevel, Chain.operands, evalBools]
  cases c.first.evalBool ctx with
  | error err => rfl
  | ok b =>
    rcases Outcome.cases_of_map_eq (evalFollowing_logical ctx hlevel c.following) with
      ⟨err, hfollowing, hbools⟩ | ⟨following, bs, hfollowing, hbools, h⟩
    · rw [hfollowing, hbools]
      rfl
    · rw [hfollowing, hbools]
      exact hfold b following bs h

theorem eval_or (c : Chain (Expr α)) :
    (chain note .or c).eval ctx = (evalBools ctx c.operands).map fun bs => .bool (bs.any fun b => b) := by
  refine eval_logical ctx note (.inl rfl) c fun b following bs h => ?_
  rw [Operation.combine, h]
  simp [Value.bool?, List.any_map, Function.comp_def]

theorem eval_and (c : Chain (Expr α)) :
    (chain note .and c).eval ctx = (evalBools ctx c.operands).map fun bs => .bool (bs.all fun b => b) := by
  refine eval_logical ctx note (.inr rfl) c fun b following bs h => ?_
  rw [Operation.combine, h]
  simp [Value.bool?, List.all_map, Function.comp_def]

end Chains

/-! ### Negated operands -/

/-- The negation of an expression is the opposite boolean, or fails as the expression does where that is no boolean. -/
theorem eval_negation {n e : Expr α} (h : IsNegation n e) :
    n.eval ctx = (e.evalBool ctx).map fun b => .bool !b := by
  cases h with
  | around a =>
    rw [eval, evalBool]
    cases e.eval ctx with
    | error err => rfl
    | ok v => exact (Operation.applySigns_succ .not 0 v).trans (by rfl)
  | longer a b count e =>
    rw [eval, evalBool, eval]
    cases e.eval ctx with
    | error err => rfl
    | ok v =>
      change Operation.applySigns .not (count + 1) v = _
      rw [Operation.applySigns_succ]
      change _ = (((Operation.applySigns .not count v).bind (Operation.toBool "bool")).map _)
      cases Operation.applySigns .not count v <;> rfl

theorem evalBool_negation {n e : Expr α} (h : IsNegation n e) : n.evalBool ctx = (e.evalBool ctx).map not := by
  rw [evalBool, eval_negation ctx h]
  cases e.evalBool ctx <;> rfl

theorem evalBools_negation {ns es : List (Expr α)} (h : List.Forall₂ IsNegation ns es) :
    evalBools ctx ns = (evalBools ctx es).map (List.map not) := by
  induction h with
  | nil => rfl
  | @cons n e ns es hn _ ih =>
    rw [evalBools, evalBools, evalBool_negation ctx hn, ih]
    cases e.evalBool ctx with
    | error err => rfl
    | ok b => cases evalBools ctx es <;> rfl

/-- De Morgan's laws: the negation of a logical chain has the outcome of the chain of the other level with the operands
negated. -/
theorem eval_not_chain {level : Level} (hlevel : level = .or ∨ level = .and) (a b b' : α) (c d : Chain (Expr α))
    (hnegated : List.Forall₂ IsNegation d.operands c.operands) :
    (unary a .not 1 (chain b level c)).eval ctx = (chain b' level.dual d).eval ctx := by
  rw [eval_negation ctx (.around a _), evalBool]
  rcases hlevel with rfl | rfl
  · rw [Level.dual, eval_or, eval_and, evalBools_negation ctx hnegated]
    cases evalBools ctx c.operands with
    | error err => rfl
    | ok bs =>
      have hfold : (!bs.any fun b => b) = (bs.map not).all fun b => b := by
        rw [List.not_any_eq_all_not, List.all_map]
        rfl
      exact congrArg (fun b => Except.ok (Value.bool b)) hfold
  · rw [Level.dual, eval_or, eval_and, evalBools_negation ctx hnegated]
    cases evalBools ctx c.operands with
    | error err => rfl
    | ok bs =>
      have hfold : (!bs.all fun b => b) = (bs.map not).any fun b => b := by
        rw [List.not_all_eq_any_not, List.any_map]
        rfl
      exact congrArg (fun b => Except.ok (Value.bool b)) hfold

/-- `!(true && !true)` is `!true || !!true`, and `!(true || 1 || x)` fails as `!true && !1 && !x` does, for `1`. -/
theorem eval_not_two_chains :
    let ctx : Context := ⟨.empty, .empty⟩
    let negation (e : Expr Unit) : Expr Unit := .unary () .not 1 e
    let yes : Expr Unit := .literal () (.bool true)
    let one : Expr Unit := .literal () (.int 1)
    let x : Expr Unit := .name () "x"
    let both : Chain (Expr Unit) := ⟨yes, .and, negation yes, []⟩
    let either : Chain (Expr Unit) := ⟨negation yes, .or, .unary () .not 2 yes, []⟩
    let three : Chain (Expr Unit) := ⟨yes, .or, one, [(.or, x)]⟩
    let opposite : Chain (Expr Unit) := ⟨negation yes, .and, negation one, [(.and, negation x)]⟩
    List.Forall₂ IsNegation either.operands both.operands ∧ List.Forall₂ IsNegation opposite.operands three.operands ∧
    (negation (.chain () .and both)).eval ctx = (chain () .or either).eval ctx ∧
    (negation (.chain () .or three)).eval ctx = (chain () .and opposite).eval ctx ∧
    (chain () .or either).eval ctx = .ok (.bool true) ∧
    (chain () .and opposite).eval ctx = .error (.typeMismatch "bool" .int) := by
  intro ctx negation yes one x both either three opposite
  have hand : List.Forall₂ IsNegation either.operands both.operands :=
    .cons (.around () yes) (.cons (.longer () () 1 yes) .nil)
  have hor : List.Forall₂ IsNegation opposite.operands three.operands :=
    .cons (.around () yes) (.cons (.around () one) (.cons (.around () x) .nil))
  exact ⟨hand, hor, eval_not_chain ctx (.inr rfl) () () () both either hand,
    eval_not_chain ctx (.inl rfl) () () () three opposite hor, rfl, rfl⟩

end Expr

end ExprLang
