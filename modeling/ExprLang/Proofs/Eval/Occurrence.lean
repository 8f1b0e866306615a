import ExprLang.Library.Standard
import ExprLang.Proofs.Eval.Pairwise
import ExprLang.Proofs.Syntax.Calls
import ExprLang.Proofs.Value.Equality

/-!
# Membership in lists

Whether a value is in a list is asked by the operator, by the function `contains` or by its method call. The operator
compares the value with the items and the function the items with the value, so it takes the symmetry of equality that
all of them have one answer (`answers_any`): whether some item equals the value. A concatenation has the items of its
lists (`eval_concatenation`), so a value is in it when it is in one of them (`answers_of_lists`).
-/

namespace ExprLang

variable {x : Value} {items : List Value} {t : Bool}

/-- The answer `t` to whether `x` is in `l`, for all expressions that have these values and all ways to ask. -/
structure Answers (x l : Value) (t : Bool) : Prop where
  operator : ∀ {α : Type} (matcher : Library.Matcher) (scope : Scope) (note : α) (needle container : Expr α),
    needle.eval ⟨scope, Library.standardWith matcher⟩ = .ok x →
    container.eval ⟨scope, Library.standardWith matcher⟩ = .ok l →
    (Expr.relation note .member needle container).eval ⟨scope, Library.standardWith matcher⟩ = .ok (.bool t)
  function : ∀ {α : Type} (matcher : Library.Matcher) (scope : Scope) (note place : α) (needle container : Expr α),
    needle.eval ⟨scope, Library.standardWith matcher⟩ = .ok x →
    container.eval ⟨scope, Library.standardWith matcher⟩ = .ok l →
    (Expr.call note (.name place "contains") [container, needle]).eval ⟨scope, Library.standardWith matcher⟩ =
      .ok (.bool t)
  /-- where `X` and `L` are read, `(L).contains(X)` is read with one more level of nesting -/
  method : ∀ (matcher : Library.Matcher) (scope : Scope) (limit : Nat) (X L s : List SpannedToken)
      (needle container : SpannedExpr),
    parseTokens limit X = .ok needle → parseTokens limit L = .ok container →
    needle.eval ⟨scope, Library.standardWith matcher⟩ = .ok x →
    container.eval ⟨scope, Library.standardWith matcher⟩ = .ok l →
    kinds s = methodCall (kinds L) "contains" [kinds X] →
    ∃ e, parseTokens (limit + 1) s = .ok e ∧ e.eval ⟨scope, Library.standardWith matcher⟩ = .ok (.bool t)

/-! ### One answer -/

theorem dispatch_contains (matcher : Library.Matcher) :
    (Library.standardWith matcher).dispatch "contains" [.list items, x] =
      .ok (.bool (items.any fun v => v.equals x)) := rfl

theorem eval_contains {α : Type} {matcher : Library.Matcher} {scope : Scope} {needle container : Expr α}
    (note place : α) (hx : needle.eval ⟨scope, Library.standardWith matcher⟩ = .ok x)
    (hl : container.eval ⟨scope, Library.standardWith matcher⟩ = .ok (.list items)) :
    (Expr.call note (.name place "contains") [container, needle]).eval ⟨scope, Library.standardWith matcher⟩ =
      .ok (.bool (items.any fun v => v.equals x)) := by
  show (Expr.evalItems _ [container, needle]).bind _ = _
  rw [Expr.evalItems, Expr.evalItems, hl, hx]
  exact dispatch_contains matcher

theorem any_equals_comm (x : Value) (items : List Value) :
    (items.any fun v => x.equals v) = items.any fun v => v.equals x :=
  congrArg items.any (funext fun _ => Bool.eq_iff_iff.mpr ⟨Value.equals_symm, Value.equals_symm⟩)

/-- All ways to ask have the answer whether some item equals the value. -/
theorem answers_any (x : Value) (items : List Value) : Answers x (.list items) (items.any fun v => v.equals x) where
  operator matcher scope note needle container hx hl := by
    rw [Expr.eval, hx, hl, ← any_equals_comm]
    rfl
  function matcher scope note place needle container hx hl := eval_contains note place hx hl
  method matcher scope limit X L s needle container hX hL hx hl hs := by
    have hneedle := parseTokens_eq_ok_iff.1 ⟨needle, hX, rfl⟩
    have hcontainer := parseTokens_eq_ok_iff.1 ⟨container, hL, rfl⟩
    obtain ⟨e, he, htree⟩ :=
      parseTokens_eq_ok_iff.2 (hs ▸ expression_methodCall hcontainer (.cons hneedle .nil) "contains")
    refine ⟨e, he, ?_⟩
    rw [← Expr.eval_erase, htree]
    exact eval_contains () () ((Expr.eval_erase _ _).trans hx) ((Expr.eval_erase _ _).trans hl)

theorem answers_list_iff : Answers x (.list items) t ↔ (t = true ↔ ∃ v ∈ items, v.equals x = true) := by
  rw [← List.any_eq_true, ← Bool.eq_iff_iff]
  constructor
  · intro h
    -- two names have the values
    let scope : Scope := fun s => if s = "x" then some x else some (.list items)
    have hanswer := h.function Regex.matcher scope () () (.name () "x") (.name () "l") rfl rfl
    rw [(answers_any x items).function Regex.matcher scope () () (.name () "x") (.name () "l") rfl rfl] at hanswer
    exact (Value.bool.inj (Except.ok.inj hanswer)).symm
  · rintro rfl
    exact answers_any x items

/-! ### Concatenations -/

private theorem mapM_list? (lists : List (List Value)) : (lists.map Value.list).mapM Value.list? = some lists := by
  induction lists with
  | nil => rfl
  | cons items lists ih =>
    rw [List.map_cons, Operation.mapM_cons_option, ih]
    rfl

private theorem operators_of_hasValue {α : Type} {ctx : Context} {following : List (BinaryOp × Expr α)}
    {ps : List (BinaryOp × Value)} (h : List.Forall₂ (Expr.HasValue ctx) following ps) :
    ps.map Prod.fst = following.map Prod.fst := by
  induction h with
  | nil => rfl
  | cons hp _ ih => rw [List.map_cons, List.map_cons, ih, hp.1]

/-- The lists of a chain of additions one after the other. -/
theorem eval_concatenation {α : Type} {ctx : Context} (note : α) {c : Chain (Expr α)} {lists : List (List Value)}
    (hadd : ∀ op ∈ c.operators, op = .add)
    (hlists : List.Forall₂ (fun e items => e.eval ctx = .ok (.list items)) c.operands lists) :
    (Expr.chain note .additive c).eval ctx = .ok (.list lists.flatten) := by
  cases hlists with
  | @cons _ items _ lists hfirst hfollowing =>
    obtain ⟨ps, hps, hvalues⟩ := Expr.exists_hasValue (List.forall₂_map_right_iff.mpr hfollowing)
    have hall : (ps.all fun p => p.1 = .add) = true := by
      rw [List.all_eq_true]
      intro p hp
      have hop : p.1 ∈ c.operators := by
        rw [Chain.operators, ← operators_of_hasValue hps]
        exact List.mem_map_of_mem hp
      exact decide_eq_true (hadd _ hop)
    have hconcat : Operation.concat? (.list items :: ps.map Prod.snd) = some (.list (items ++ lists.flatten)) := by
      rw [← hvalues, Operation.concat?, mapM_list?]
      rfl
    rw [Expr.eval_chain_of_hasValue (.inl rfl) note hfirst hps, Operation.combine, if_pos hall, hconcat]
    rfl

/-- A value is in a list, however it is asked, when an item equals it, and it is in a concatenation when it is in one of
the lists. -/
theorem answers_of_lists (x : Value) :
    (∀ items t, Answers x (.list items) t ↔ (t = true ↔ ∃ v ∈ items, v.equals x = true)) ∧
    ∀ {α : Type} (ctx : Context) (note : α) (c : Chain (Expr α)) (lists : List (List Value)),
      (∀ op ∈ c.operators, op = .add) →
      List.Forall₂ (fun e items => e.eval ctx = .ok (.list items)) c.operands lists →
      ∃ items, (Expr.chain note .additive c).eval ctx = .ok (.list items) ∧
        (Answers x (.list items) true ↔ ∃ part ∈ lists, Answers x (.list part) true) := by
  refine ⟨fun items t => answers_list_iff, fun ctx note c lists hadd hlists => ?_⟩
  refine ⟨lists.flatten, eval_concatenation note hadd hlists, ?_⟩
  simp only [answers_list_iff, true_iff, List.mem_flatten]
  constructor
  · rintro ⟨v, ⟨part, hpart, hv⟩, hequals⟩
    exact ⟨part, hpart, v, hv, hequals⟩
  · rintro ⟨part, hpart, v, hv, hequals⟩
    exact ⟨v, ⟨part, hpart, hv⟩, hequals⟩

/-- A float is in a concatenation that holds its number as an unsigned integer, beside a not-a-number. -/
theorem answers_of_two_lists :
    let c : Context := ⟨fun s => if s = "l" then some (.list [.float (0 / 0), .uint 2]) else none, Library.standard⟩
    let chain : Chain (Expr Unit) := .pair (.list () [.literal () (.int 1)]) .add (.name () "l")
    ∃ items, (Expr.chain () .additive chain).eval c = .ok (.list items) ∧ Answers (.float 2) (.list items) true ∧
      ∃ part ∈ [[.int 1], [.float (0 / 0), .uint 2]], Answers (.float 2) (.list part) true := by
  intro c chain
  have hlists : List.Forall₂ (fun e items => e.eval c = .ok (.list items)) chain.operands
      [[.int 1], [.float (0 / 0), .uint 2]] := .cons rfl (.cons rfl .nil)
  obtain ⟨hitems, hconcatenation⟩ := answers_of_lists (.float 2)
  have hadd : ∀ op ∈ chain.operators, op = .add := by simp [chain, Chain.pair, Chain.operators, Chain.following]
  obtain ⟨items, heval, hiff⟩ := hconcatenation c () chain _ hadd hlists
  have hequals : (Value.uint 2).equals (.float 2) = true := by decide +kernel
  have hpart : Answers (.float 2) (.list [.float (0 / 0), .uint 2]) true :=
    (hitems _ _).mpr (iff_of_true rfl ⟨.uint 2, by simp, hequals⟩)
  have hparts : ∃ part ∈ [[.int 1], [.float (0 / 0), .uint 2]], Answers (.float 2) (.list part) true :=
    ⟨_, by simp, hpart⟩
  exact ⟨items, heval, hiff.mpr hparts, hparts⟩

end ExprLang
