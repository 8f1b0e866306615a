import Mathlib.Data.List.Forall2
import ExprLang.Eval.Evaluate

/-!
# Operands that fail

A node evaluates its operands from the left, and the first error among them is its outcome, unless the node has refused
a value before it got there (`eval_of_failing_operand`). Only two sorts of nodes refuse a value before all operands are
evaluated: a logical chain one that is no boolean, and a map one that is no key, once the value of its entry is there
too. All others look at the kinds of the values last.
-/

namespace ExprLang

variable {α : Type}

/-! ### Values that are refused early -/

/-- The error for the first value that an operator of the level refuses while other operands are still to come. -/
def Level.operandError? : Level → List Value → Option EvalError
  | or, vs | and, vs => (vs.find? fun v => v.kind ≠ .bool).map fun v => .typeMismatch "bool" v.kind
  | additive, _ | multiplicative, _ => none

/-- The kinds of values that are keys. -/
def Kind.keys : List Kind := [bool, int, uint, string]

/-- The error for the first key of a complete entry that is none, in the values of keys and values by turns. -/
def keyError? : List Value → Option EvalError
  | k :: _ :: rest =>
    if k.kind ∈ Kind.keys then keyError? rest else some (.typeMismatch "bool, int, uint or string map key" k.kind)
  | _ => none

namespace Expr

/-- The expressions that a node evaluates in any case, from the left. -/
def operands : Expr α → List (Expr α)
  | literal _ _ | name _ _ => []
  | list _ items => items
  | map _ entries => entries.flatMap fun p => [p.1, p.2]
  | unary _ _ _ e => [e]
  | chain _ _ c => c.operands
  | relation _ _ l r => [l, r]
  | ternary _ cond _ _ => [cond]
  | index _ base position => [base, position]
  | call _ (name _ _) args => args
  | call _ _ _ => []

/-- The error with which a node ends early when its first operands have the given values. -/
def earlyError? : Expr α → List Value → Option EvalError
  | chain _ level _, vs => level.operandError? vs
  | map _ _, vs => keyError? vs
  | _, _ => none

/-- Whether a node looks at the kinds of its operands' values only when it has all of them. -/
def ChecksLast : Expr α → Prop
  | chain _ level _ => level = .additive ∨ level = .multiplicative
  | map _ _ => False
  | _ => True

/-- A node that checks last does not end early. -/
theorem earlyError?_of_checksLast {e : Expr α} (h : e.ChecksLast) (vs : List Value) : e.earlyError? vs = none := by
  cases e with
  | chain _ level _ => rcases h with rfl | rfl <;> rfl
  | map => exact h.elim
  | _ => rfl

end Expr

namespace Operation

/-- A level refuses a value, whatever follows, or takes it as it is. -/
theorem checkOperand_cases (level : Level) (v : Value) :
    (∃ own, checkOperand level v = .error own ∧ ∀ vs, level.operandError? (v :: vs) = some own) ∨
    (checkOperand level v = .ok v ∧ ∀ vs, level.operandError? (v :: vs) = level.operandError? vs) := by
  have logical (hlevel : level = .or ∨ level = .and) :
      (∃ own, checkOperand level v = .error own ∧ ∀ vs, level.operandError? (v :: vs) = some own) ∨
      (checkOperand level v = .ok v ∧ ∀ vs, level.operandError? (v :: vs) = level.operandError? vs) := by
    cases v with
    | bool b =>
      right
      rcases hlevel with rfl | rfl <;> exact ⟨rfl, fun vs => rfl⟩
    | _ =>
      left
      rcases hlevel with rfl | rfl <;> exact ⟨_, rfl, fun vs => rfl⟩
  cases level with
  | or => exact logical (.inl rfl)
  | and => exact logical (.inr rfl)
  | additive | multiplicative => exact .inr ⟨rfl, fun vs => rfl⟩

/-- A value is refused as a key, whatever follows, or is one. -/
theorem entryKey_cases (k : Value) :
    (∃ own, entryKey k = .error own ∧ ∀ v vs, keyError? (k :: v :: vs) = some own) ∨
    ∃ key, entryKey k = .ok key ∧ ∀ v vs, keyError? (k :: v :: vs) = keyError? vs := by
  cases k with
  | bool | int | uint | string => exact .inr ⟨_, rfl, fun v vs => rfl⟩
  | _ => exact .inl ⟨_, rfl, fun v vs => rfl⟩

end Operation

namespace Expr

/-! ### Runs of operands -/

section Runs

variable {ctx : Context} {child : Expr α} {before after : List (Expr α)} {values : List Value} {err : EvalError}

/-- Each expression has its value. -/
abbrev HaveValues (ctx : Context) : List (Expr α) → List Value → Prop :=
  List.Forall₂ fun e v => e.eval ctx = .ok v

theorem evalItems_of_failing (hbefore : HaveValues ctx before values) (hchild : child.eval ctx = .error err) :
    evalItems ctx (before ++ child :: after) = .error err := by
  induction hbefore with
  | nil =>
    rw [List.nil_append, evalItems, hchild]
    rfl
  | cons hb _ ih =>
    rw [List.cons_append, evalItems, hb, ih]
    rfl

theorem evalFollowing_of_failing {level : Level} {es : List (BinaryOp × Expr α)}
    (hes : es.map Prod.snd = before ++ child :: after) (hbefore : HaveValues ctx before values)
    (hchild : child.eval ctx = .error err) :
    evalFollowing ctx level es = .error ((level.operandError? values).getD err) := by
  induction hbefore generalizing es with
  | nil =>
    obtain ⟨⟨op, e⟩, es, rfl, rfl, -⟩ := List.map_eq_cons_iff.mp hes
    rw [evalFollowing, hchild]
    cases level <;> rfl
  | @cons b v before values hb _ ih =>
    rw [List.cons_append] at hes
    obtain ⟨⟨op, e⟩, es, rfl, rfl, htail⟩ := List.map_eq_cons_iff.mp hes
    rw [evalFollowing, hb]
    -- an operand that the level refuses ends the chain in front of the failing one
    rcases Operation.checkOperand_cases level v with ⟨own, hcheck, herror⟩ | ⟨hcheck, herror⟩
    · rw [herror, Except.bind, hcheck]
      rfl
    · rw [herror, Except.bind, hcheck, ih htail]
      rfl

theorem evalEntries_of_failing {entries : List (Expr α × Expr α)}
    (hentries : (entries.flatMap fun p => [p.1, p.2]) = before ++ child :: after)
    (hbefore : HaveValues ctx before values) (hchild : child.eval ctx = .error err) :
    evalEntries ctx entries = .error ((keyError? values).getD err) := by
  induction entries generalizing before values with
  | nil => simp at hentries
  | cons p entries ih =>
    obtain ⟨key, value⟩ := p
    rw [List.flatMap_cons, List.cons_append, List.cons_append, List.nil_append] at hentries
    dsimp only at hentries
    rw [evalEntries]
    cases hbefore with
    | nil =>
      rw [List.nil_append, List.cons.injEq] at hentries
      rw [hentries.1, hchild]
      rfl
    | @cons _ k _ _ hkey hbefore =>
      rw [List.cons_append, List.cons.injEq] at hentries
      rw [hentries.1, hkey]
      cases hbefore with
      | nil =>
        rw [List.nil_append, List.cons.injEq] at hentries
        rw [hentries.2.1, hchild]
        rfl
      | @cons _ v _ _ hvalue hbefore =>
        rw [List.cons_append, List.cons.injEq] at hentries
        rw [hentries.2.1, hvalue]
        -- the entry is complete, so its key is looked at before the entries behind it
        rcases Operation.entryKey_cases k with ⟨own, hcheck, herror⟩ | ⟨key, hcheck, herror⟩
        · rw [herror, Except.bind, Except.bind, hcheck]
          rfl
        · rw [herror, Except.bind, Except.bind, hcheck, Except.bind, ih hentries.2.2 hbefore]
          rfl

/-- A chain checks its first operand and then those behind its operators. -/
theorem eval_chain_following (ctx : Context) (note : α) (level : Level) (c : Chain (Expr α)) :
    (chain note level c).eval ctx =
      ((c.first.eval ctx).bind (Operation.checkOperand level)).bind fun a =>
        (evalFollowing ctx level c.following).bind fun more => Operation.combine level a more := by
  obtain ⟨first, op, second, rest⟩ := c
  rw [eval, Chain.following, evalFollowing]
  congr 1
  funext a
  cases (second.eval ctx).bind (Operation.checkOperand level) with
  | error e => rfl
  | ok b => cases evalFollowing ctx level rest <;> rfl

theorem eval_chain_of_failing {note : α} {level : Level} {c : Chain (Expr α)}
    (hc : c.operands = before ++ child :: after) (hbefore : HaveValues ctx before values)
    (hchild : child.eval ctx = .error err) :
    (chain note level c).eval ctx = .error ((level.operandError? values).getD err) := by
  rw [Chain.operands] at hc
  rw [eval_chain_following]
  cases hbefore with
  | nil =>
    rw [List.nil_append, List.cons.injEq] at hc
    rw [hc.1, hchild]
    cases level <;> rfl
  | @cons _ v _ _ hb hbefore =>
    rw [List.cons_append, List.cons.injEq] at hc
    rw [hc.1, hb]
    rcases Operation.checkOperand_cases level v with ⟨own, hcheck, herror⟩ | ⟨hcheck, herror⟩
    · rw [herror, Except.bind, hcheck]
      rfl
    · rw [herror, Except.bind, hcheck, Except.bind, evalFollowing_of_failing hc.2 hbefore hchild]
      rfl

/-- Of two operands that are both evaluated before anything else is done, one fails. -/
theorem bind_of_failing {l r : Expr α} (f : Value → Value → Outcome Value) (h : [l, r] = before ++ child :: after)
    (hbefore : HaveValues ctx before values) (hchild : child.eval ctx = .error err) :
    ((l.eval ctx).bind fun v => (r.eval ctx).bind fun w => f v w) = .error err := by
  cases hbefore with
  | nil =>
    rw [List.nil_append, List.cons.injEq] at h
    rw [h.1, hchild]
    rfl
  | cons hb hbefore =>
    rw [List.cons_append, List.cons.injEq] at h
    rw [h.1, hb]
    cases hbefore with
    | nil =>
      rw [List.nil_append, List.cons.injEq] at h
      rw [h.2.1, hchild]
      rfl
    | cons _ _ => simp at h

/-- Of one operand that is evaluated before anything else is done, this one fails. -/
theorem eq_of_singleton {e : Expr α} (h : [e] = before ++ child :: after) (hbefore : HaveValues ctx before values) :
    e = child ∧ values = [] := by
  cases hbefore with
  | nil => exact ⟨(List.cons.inj h).1, rfl⟩
  | cons _ _ => simp at h

end Runs

/-- Where the first operands have values and the next one fails, the node fails as this one does, unless it has refused
one of those values before. -/
theorem eval_of_failing_operand (ctx : Context) (e child : Expr α) (before after : List (Expr α)) (values : List Value)
    (err : EvalError) (hoperands : e.operands = before ++ child :: after) (hbefore : HaveValues ctx before values)
    (hchild : child.eval ctx = .error err) :
    e.eval ctx = .error ((e.earlyError? values).getD err) ∧
      (e.eval ctx = .error err ↔ ∀ own ∈ e.earlyError? values, own = err) ∧
      (e.ChecksLast → e.eval ctx = .error err) := by
  have houtcome : e.eval ctx = .error ((e.earlyError? values).getD err) := by
    cases e with
    | literal | name => simp [operands] at hoperands
    | list _ items =>
      obtain rfl : items = before ++ child :: after := hoperands
      rw [eval, evalItems_of_failing hbefore hchild]
      rfl
    | map _ entries =>
      rw [eval, evalEntries_of_failing hoperands hbefore hchild]
      rfl
    | unary _ op count inner =>
      obtain ⟨rfl, rfl⟩ := eq_of_singleton hoperands hbefore
      rw [eval, hchild]
      rfl
    | chain _ level c => exact eval_chain_of_failing hoperands hbefore hchild
    | relation _ op l r => exact bind_of_failing _ hoperands hbefore hchild
    | ternary _ cond yes no =>
      obtain ⟨rfl, rfl⟩ := eq_of_singleton hoperands hbefore
      rw [eval, hchild]
      rfl
    | index _ base position => exact bind_of_failing _ hoperands hbefore hchild
    | call _ callee args =>
      cases callee with
      | name _ f =>
        obtain rfl : args = before ++ child :: after := hoperands
        rw [eval, evalItems_of_failing hbefore hchild]
        rfl
      | _ => simp [operands] at hoperands
  refine ⟨houtcome, ?_, fun hlast => ?_⟩
  · rw [houtcome]
    cases e.earlyError? values <;> simp
  · rw [houtcome, earlyError?_of_checksLast hlast values]
    rfl

/-- Both `null - x` and `true && 1 && x` fail where `x` is unknown, the one for `x` and the other for `1`. -/
theorem eval_of_unknown_operand :
    let ctx : Context := ⟨.empty, .empty⟩
    let null : Expr Unit := .literal () .null
    let yes : Expr Unit := .literal () (.bool true)
    let one : Expr Unit := .literal () (.int 1)
    let x : Expr Unit := .name () "x"
    let difference : Expr Unit := .chain () .additive ⟨null, .sub, x, []⟩
    let conjunction : Expr Unit := .chain () .and ⟨yes, .and, one, [(.and, x)]⟩
    difference.operands = [null] ++ [x] ∧ HaveValues ctx [null] [.null] ∧
    conjunction.operands = [yes, one] ++ [x] ∧ HaveValues ctx [yes, one] [.bool true, .int 1] ∧
    x.eval ctx = .error (.unknownIdentifier "x") ∧ difference.ChecksLast ∧
    difference.eval ctx = .error (.unknownIdentifier "x") ∧
    conjunction.eval ctx = .error (.typeMismatch "bool" .int) := by
  intro ctx null yes one x difference conjunction
  have hnull : HaveValues ctx [null] [.null] := .cons rfl .nil
  have hbefore : HaveValues ctx [yes, one] [.bool true, .int 1] := .cons rfl (.cons rfl .nil)
  have hx : x.eval ctx = .error (.unknownIdentifier "x") := rfl
  have hlast : difference.ChecksLast := .inl rfl
  exact ⟨rfl, hnull, rfl, hbefore, hx, hlast,
    (eval_of_failing_operand ctx difference x [null] [] [.null] _ rfl hnull hx).2.2 hlast,
    (eval_of_failing_operand ctx conjunction x [yes, one] [] [.bool true, .int 1] _ rfl hbefore hx).1⟩

/-- A node need not fail as its first failing operand does: `1 && x` fails for `1` where `x` is unknown. -/
theorem not_eval_as_failing_operand :
    ¬ ∀ (ctx : Context) (e child : Expr Unit) (before after : List (Expr Unit)) (values : List Value) (err : EvalError),
      e.operands = before ++ child :: after → HaveValues ctx before values → child.eval ctx = .error err →
      e.eval ctx = .error err := by
  intro h
  let ctx : Context := ⟨.empty, .empty⟩
  let one : Expr Unit := .literal () (.int 1)
  let x : Expr Unit := .name () "x"
  let conjunction : Expr Unit := .chain () .and ⟨one, .and, x, []⟩
  have houtcome : conjunction.eval ctx = .error (.typeMismatch "bool" .int) := rfl
  have hx := h ctx conjunction x [one] [] [.int 1] (.unknownIdentifier "x") rfl (.cons rfl .nil) rfl
  rw [houtcome] at hx
  cases hx

end Expr

end ExprLang
