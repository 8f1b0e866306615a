import ExprLang.Environment
import ExprLang.Proofs.Syntax.Places

/-!
# Notes have no part in evaluation

The value of a tree is that of the tree with its notes changed or dropped (`eval_mapNote`, `eval_erase`). The notes of a
tree that was read are its places, and places have no part in reading, so the layout of a text has no part in what it
means (`meaning_of_kinds`).
-/

namespace ExprLang.Expr

variable {α β : Type}

mutual

/-- The outcome of a tree does not depend on its notes. -/
theorem eval_mapNote (f : α → β) (c : Context) : ∀ e : Expr α, (e.mapNote f).eval c = e.eval c
  | literal _ _ => rfl
  | name _ _ => rfl
  | list _ items => by rw [mapNote, eval, eval, evalItems_mapItems]
  | map _ entries => by rw [mapNote, eval, eval, evalEntries_mapEntries]
  | unary _ op count e => by rw [mapNote, eval, eval, eval_mapNote f c e]
  | chain _ level ⟨first, op, second, rest⟩ => by
    rw [mapNote, eval, eval, eval_mapNote f c first, eval_mapNote f c second, evalFollowing_mapFollowing]
  | relation _ op l r => by rw [mapNote, eval, eval, eval_mapNote f c l, eval_mapNote f c r]
  | ternary _ cond yes no => by
    rw [mapNote, eval, eval, eval_mapNote f c cond, eval_mapNote f c yes, eval_mapNote f c no]
  | index _ base position => by rw [mapNote, eval, eval, eval_mapNote f c base, eval_mapNote f c position]
  | call _ callee args => by
    have hargs := evalItems_mapItems f c args
    -- only the root of what is called counts, and it is not evaluated
    cases callee with
    | name _ g =>
      rw [mapNote, mapNote, eval, eval, hargs]
    | chain _ level ch => obtain ⟨first, op, second, rest⟩ := ch; rfl
    | _ => rfl
  termination_by structural e => e

theorem evalItems_mapItems (f : α → β) (c : Context) :
    ∀ es : List (Expr α), evalItems c (mapItems f es) = evalItems c es
  | [] => rfl
  | e :: es => by rw [mapItems, evalItems, evalItems, eval_mapNote f c e, evalItems_mapItems f c es]
  termination_by structural es => es

theorem evalEntries_mapEntries (f : α → β) (c : Context) :
    ∀ es : List (Expr α × Expr α), evalEntries c (mapEntries f es) = evalEntries c es
  | [] => rfl
  | (k, v) :: es => by
    rw [mapEntries, evalEntries, evalEntries, eval_mapNote f c k, eval_mapNote f c v, evalEntries_mapEntries f c es]
  termination_by structural es => es

theorem evalFollowing_mapFollowing (f : α → β) (c : Context) {level : Level} :
    ∀ es : List (BinaryOp × Expr α), evalFollowing c level (mapFollowing f es) = evalFollowing c level es
  | [] => rfl
  | (op, e) :: es => by
    rw [mapFollowing, evalFollowing, evalFollowing, eval_mapNote f c e, evalFollowing_mapFollowing f c es]
  termination_by structural es => es

end

theorem eval_erase (c : Context) (e : Expr α) : e.erase.eval c = e.eval c := eval_mapNote _ c e

/-- Trees that differ in their notes only have the same outcome. -/
theorem eval_of_erase (c : Context) {e : Expr α} {f : Expr β} (h : e.erase = f.erase) : e.eval c = f.eval c := by
  rw [← eval_erase c e, h, eval_erase]

end ExprLang.Expr

namespace ExprLang

/-- Whether two texts mean the same in an environment and a scope: they have the same value, or the same error in their
evaluation, or are no expressions for the same reason. -/
def SameMeaning (env : Environment) (scope : Scope) (a b : String) : Prop :=
  (∃ v, env.eval a scope = .ok v ∧ env.eval b scope = .ok v) ∨
  (∃ e, env.eval a scope = .error (.eval e) ∧ env.eval b scope = .error (.eval e)) ∨
  ∃ e f, env.eval a scope = .error (.parse e) ∧ env.eval b scope = .error (.parse f) ∧ e.message = f.message

/-- The outcome of a text that is an expression is that of its tree. -/
theorem eval_of_parse {env : Environment} {source : String} {e : SpannedExpr} (h : parse env.nesting source = .ok e)
    (scope : Scope) : env.eval source scope = (e.eval ⟨scope, env.functions⟩).mapError .eval := by
  rw [Environment.eval, Environment.compile, h, Except.map]
  dsimp only [Program.run, Environment.program]
  cases e.eval ⟨scope, env.functions⟩ <;> rfl

theorem eval_of_parse_error {env : Environment} {source : String} {e : ParseError}
    (h : parse env.nesting source = .error e) (scope : Scope) : env.eval source scope = .error (.parse e) := by
  rw [Environment.eval, Environment.compile, h]
  rfl

theorem parse_of_lex {limit : Nat} {source : String} {tokens : List SpannedToken} (h : lex source = .ok tokens) :
    parse limit source = parseTokens limit tokens := by
  rw [parse, h]

/-- Texts with the same tokens mean the same. -/
theorem sameMeaning_of_kinds (env : Environment) (scope : Scope) {a b : String} {s t : List SpannedToken}
    (ha : lex a = .ok s) (hb : lex b = .ok t) (h : kinds s = kinds t) : SameMeaning env scope a b := by
  rcases parseTokens_of_kinds env.nesting h with ⟨e, f, he, hf, herase⟩ | ⟨e, f, he, hf, hmessage⟩
  · have hvalue : env.eval a scope = env.eval b scope := by
      rw [eval_of_parse ((parse_of_lex ha).trans he), eval_of_parse ((parse_of_lex hb).trans hf),
        Expr.eval_of_erase _ herase]
    have hparsed := eval_of_parse ((parse_of_lex hb).trans hf) scope
    unfold SameMeaning
    rw [hvalue, hparsed]
    cases f.eval ⟨scope, env.functions⟩ with
    | error e => exact .inr (.inl ⟨e, rfl, rfl⟩)
    | ok v => exact .inl ⟨v, rfl, rfl⟩
  · refine .inr (.inr ⟨e, f, ?_, ?_, hmessage⟩)
    · exact eval_of_parse_error ((parse_of_lex ha).trans he) scope
    · exact eval_of_parse_error ((parse_of_lex hb).trans hf) scope

/-- Layout has no part in what a text means. Tokens that differ in their places only are read as trees that differ in
their places only, or are refused with the same message; such trees have the same outcome in every context; and so texts
that are read as the same tokens mean the same. -/
theorem meaning_of_kinds :
    (∀ (limit : Nat) (s t : List SpannedToken), kinds s = kinds t →
      (∃ e f, parseTokens limit s = .ok e ∧ parseTokens limit t = .ok f ∧ e.erase = f.erase) ∨
      ∃ e f, parseTokens limit s = .error e ∧ parseTokens limit t = .error f ∧ e.message = f.message) ∧
    (∀ (c : Context) (e f : SpannedExpr), e.erase = f.erase → e.eval c = f.eval c) ∧
    ∀ (env : Environment) (scope : Scope) (a b : String) (s t : List SpannedToken), lex a = .ok s → lex b = .ok t →
      kinds s = kinds t → SameMeaning env scope a b :=
  ⟨fun limit _ _ => parseTokens_of_kinds limit, fun c _ _ => Expr.eval_of_erase c,
    fun env scope _ _ _ _ => sameMeaning_of_kinds env scope⟩

/-- The same tokens close together, and apart with a comment between them. -/
theorem meaning_of_two_layouts :
    let a := "size('ab')*2"
    let b := " size ( \"ab\" ) // twice\n * 2"
    ∃ s t, lex a = .ok s ∧ lex b = .ok t ∧ kinds s = kinds t ∧ SameMeaning .standard .empty a b ∧
      ∃ e f, parseTokens 2 s = .ok e ∧ parseTokens 2 t = .ok f ∧ e.erase = f.erase ∧
        evaluate e .empty = evaluate f .empty := by
  intro a b
  have hkinds : (lex a).toOption.map kinds = (lex b).toOption.map kinds := by decide +kernel
  have hread : ((lex a).toOption.any fun s => (parseTokens 2 s).isOk) = true := by decide +kernel
  cases ha : lex a with
  | error e =>
    rw [ha] at hread
    cases hread
  | ok s =>
    cases hb : lex b with
    | error e =>
      rw [ha, hb] at hkinds
      cases hkinds
    | ok t =>
      rw [ha] at hread
      rw [ha, hb] at hkinds
      have hst : kinds s = kinds t := Option.some.inj hkinds
      refine ⟨s, t, rfl, rfl, hst, meaning_of_kinds.2.2 .standard .empty a b s t ha hb hst, ?_⟩
      rcases meaning_of_kinds.1 2 s t hst with ⟨e, f, he, hf, herase⟩ | ⟨e, f, he, -, -⟩
      · exact ⟨e, f, he, hf, herase, meaning_of_kinds.2.1 _ e f herase⟩
      · have hok : (parseTokens 2 s).isOk = true := hread
        rw [he] at hok
        cases hok

end ExprLang
