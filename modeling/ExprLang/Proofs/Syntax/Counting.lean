import ExprLang.Syntax.Parser

/-!
# Counting levels

A reading that counts how deep it stands comes back to the depth where it began, and one level deeper when it ran out of
nesting (`exprAt_eq`): what it reads is what can be read with the levels that are left. Only the readers of whole
expressions count, and all others treat a reader that counts like one that does not (`Counts`), so it is enough to
follow the count through one level. What is proved of reading is proved of the reader that does not count, `exprWithin`.
-/

namespace ExprLang

/-- A way to read a value, or to fail, without anything else. -/
abbrev Reader (β : Type) := ReaderIn (Except Failure) β

/-- Whether a fault is a lack of nesting. -/
def SyntaxFault.isTooDeep : SyntaxFault → Bool
  | .tooDeep _ => true
  | _ => false

namespace Parser

/-- Reads an expression that may nest `depth` deep, of `limit` in all. -/
def exprWithin (limit : Nat) : Nat → Reader SpannedExpr
  | 0, s => .error ⟨.tooDeep limit, s⟩
  | depth + 1, s => conditional (fun r => exprWithin limit depth r) s

variable {α β : Type} {d : Nat}

/-- How many levels stay counted behind a reading. -/
def leftCounted : Except Failure α → Nat
  | .ok _ => 0
  | .error f => f.fault.isTooDeep.toNat

/-- The counting reading that begins at depth `d` has the same outcome as the plain one, and leaves the depth but for
the levels that stay counted. -/
def Counts (d : Nat) (x : Counting α) (y : Except Failure α) : Prop := x.run.run d = (y, d + leftCounted y)

namespace Counts

theorem pure (a : α) : Counts d (Pure.pure a) (Pure.pure a) := rfl

theorem throw {f : Failure} (hf : f.fault.isTooDeep = false) :
    Counts d (MonadExcept.throw f : Counting α) (MonadExcept.throw f) := by
  have hleft : d + leftCounted (.error f : Except Failure α) = d := by
    rw [leftCounted, hf]
    rfl
  exact congrArg (Prod.mk (Except.error f)) hleft.symm

theorem bind {x : Counting α} {y : Except Failure α} {f : α → Counting β} {g : α → Except Failure β}
    (hx : Counts d x y) (hf : ∀ a, Counts d (f a) (g a)) : Counts d (x >>= f) (y >>= g) := by
  rw [Counts, ExceptT.run_bind, StateT.run_bind, hx]
  cases y with
  | ok a => exact hf a
  | error e => rfl

end Counts

private theorem expect_counts (y : Symbol) (s : List SpannedToken) :
    Counts d (expect y s) (expect y s) := by
  unfold expect
  split
  · split
    · exact .pure _
    · exact .throw rfl
  · exact .throw rfl

section Items

variable {item : ReaderIn Counting β} {item' : Reader β} (hi : ∀ s, Counts d (item s) (item' s))
include hi

private theorem moreItems_counts (close : Symbol) (trailing : Bool) (s : List SpannedToken) :
    Counts d (moreItems item close trailing s) (moreItems item' close trailing s) := by
  fun_induction moreItems item' close trailing s with
  | case1 span rest hc =>
    rw [moreItems, if_pos hc]
    exact .bind (expect_counts _ rest) fun c => .pure _
  | case2 span rest hc ih =>
    rw [moreItems, if_neg hc]
    refine .bind (hi rest) fun x => ?_
    exact .bind (ih x) fun more => .pure _
  | case3 s hs =>
    rw [moreItems]
    · exact .bind (expect_counts _ s) fun c => .pure _
    · exact hs

private theorem series_counts (close : Symbol) (trailing : Bool) (s : List SpannedToken) :
    Counts d (series item close trailing s) (series item' close trailing s) := by
  unfold series
  split
  · exact .bind (expect_counts _ s) fun c => .pure _
  · refine .bind (hi s) fun x => ?_
    exact .bind (moreItems_counts hi close trailing x.rest) fun more => .pure _

end Items

section Levels

variable {next : ReaderIn Counting SpannedExpr} {next' : Reader SpannedExpr} (hn : ∀ s, Counts d (next s) (next' s))
include hn

private theorem following_counts (level : Level) (s : List SpannedToken) :
    Counts d (following next level s) (following next' level s) := by
  fun_induction following next' level s with
  | case1 =>
    rw [following]
    exact .pure _
  | case2 t rest hop =>
    rw [following, hop]
    exact .pure _
  | case3 t rest op hop ih =>
    rw [following, hop]
    refine .bind (hn rest) fun e => ?_
    exact .bind (ih e) fun more => .pure _

private theorem run_counts (level : Level) (s : List SpannedToken) :
    Counts d (run next level s) (run next' level s) := by
  refine .bind (hn s) fun first => ?_
  exact .bind (following_counts hn level first.rest) fun more => .pure _

private theorem comparison_counts (s : List SpannedToken) :
    Counts d (comparison next s) (comparison next' s) := by
  refine .bind (hn s) fun left => ?_
  split
  · exact .pure _
  · split
    · exact .pure _
    · refine .bind (hn _) fun right => ?_
      split
      · exact .throw rfl
      · exact .pure _

end Levels

section Nested

variable {nested : ReaderIn Counting SpannedExpr} {nested' : Reader SpannedExpr}
  (hn : ∀ s, Counts d (nested s) (nested' s))
include hn

private theorem entry_counts (s : List SpannedToken) : Counts d (entry nested s) (entry nested' s) := by
  refine .bind (hn s) fun key => ?_
  refine .bind (expect_counts _ key.rest) fun colon => ?_
  exact .bind (hn colon.rest) fun value => .pure _

private theorem primary_counts (s : List SpannedToken) : Counts d (primary nested s) (primary nested' s) := by
  unfold primary
  split
  · exact .pure _
  · exact .pure _
  · exact .throw rfl
  · refine .bind (hn _) fun e => ?_
    exact .bind (expect_counts _ e.rest) fun close => .pure _
  · exact .bind (series_counts hn _ _ _) fun items => .pure _
  · exact .bind (series_counts (entry_counts hn) _ _ _) fun entries => .pure _
  · exact .throw rfl

private theorem suffixes_counts (e : SpannedExpr) (s : List SpannedToken) :
    Counts d (suffixes nested e s) (suffixes nested' e s) := by
  fun_induction suffixes nested' e s with
  | case1 e span rest ih =>
    rw [suffixes]
    refine .bind (series_counts hn _ _ rest) fun args => ?_
    exact .bind (ih args) fun more => .pure _
  | case2 e span rest ih =>
    rw [suffixes]
    refine .bind (hn rest) fun i => ?_
    refine .bind (expect_counts _ i.rest) fun close => ?_
    exact .bind (ih i close) fun more => .pure _
  | case3 e _ f _ _ rest ih =>
    rw [suffixes]
    refine .bind (series_counts hn _ _ rest) fun args => ?_
    exact .bind (ih args) fun more => .pure _
  | case4 _ _ _ _ _ h =>
    rw [suffixes]
    · exact .throw rfl
    · exact h
  | case5 _ _ _ h h' =>
    rw [suffixes]
    · exact .throw rfl
    · exact h
    · exact h'
  | case6 =>
    rw [suffixes]
    · exact .pure _
    all_goals assumption

private theorem operand_counts (s : List SpannedToken) : Counts d (operand nested s) (operand nested' s) := by
  refine .bind (primary_counts hn s) fun e => ?_
  exact .bind (suffixes_counts hn e.value e.rest) fun more => .pure _

private theorem signed_counts (s : List SpannedToken) : Counts d (signed nested s) (signed nested' s) := by
  unfold signed
  split
  · exact operand_counts hn []
  · split
    · exact operand_counts hn _
    · dsimp only
      split
      · exact .throw rfl
      · exact .bind (operand_counts hn _) fun e => .pure _

private theorem disjunction_counts (s : List SpannedToken) :
    Counts d (disjunction nested s) (disjunction nested' s) := by
  have additive := run_counts (run_counts (signed_counts hn) .multiplicative) .additive
  exact run_counts (run_counts (comparison_counts additive) .and) .or s

private theorem conditional_counts (s : List SpannedToken) :
    Counts d (conditional nested s) (conditional nested' s) := by
  refine .bind (disjunction_counts hn s) fun cond => ?_
  split
  · refine .bind (disjunction_counts hn _) fun yes => ?_
    refine .bind (expect_counts _ yes.rest) fun colon => ?_
    exact .bind (hn colon.rest) fun no => .pure _
  · exact .pure _

end Nested

/-! ### Whole expressions -/

private theorem run_deepen (limit d : Nat) (s : List SpannedToken) : (deepen limit s).run.run d =
    (if limit < d + 1 then .error ⟨.tooDeep limit, s⟩ else .ok (), d + 1) := by
  show (if limit < d + 1 then (throw ⟨.tooDeep limit, s⟩ : Counting Unit) else Pure.pure ()).run.run (d + 1) = _
  split <;> rfl

private theorem run_observing (x : Counting α) (d : Nat) :
    (observing x : Counting (Except Failure α)).run.run d = (.ok (x.run.run d).1, (x.run.run d).2) := by
  unfold observing
  rw [ExceptT.run_tryCatch, StateT.run_bind, ExceptT.run_bind, StateT.run_bind]
  obtain ⟨outcome, d'⟩ := x.run.run d
  cases outcome <;> rfl

/-- The depth that a reading leaves is taken back by one level, whatever its outcome is. -/
private theorem run_takeBack (outcome : Except Failure α) (d : Nat) :
    (do modify (· - 1); MonadExcept.ofExcept outcome : Counting α).run.run d = (outcome, d - 1) := by
  cases outcome <;> rfl

/-- An expression is read with the levels that are left at the depth where the reading begins. -/
theorem expr_counts {limit levels : Nat} (h : limit ≤ levels + d) (s : List SpannedToken) :
    Counts d (expr limit levels s) (exprWithin limit (limit - d) s) := by
  induction levels generalizing d s with
  | zero =>
    have hnone : limit - d = 0 := by omega
    rw [Counts, expr, ExceptT.run_bind, StateT.run_bind, run_deepen, if_pos (by omega), hnone]
    rfl
  | succ levels ih =>
    rw [Counts, expr, ExceptT.run_bind, StateT.run_bind, run_deepen]
    by_cases hlimit : limit < d + 1
    · have hnone : limit - d = 0 := by omega
      rw [if_pos hlimit, hnone]
      rfl
    · have hleft : limit - d = limit - (d + 1) + 1 := by omega
      have hinner := conditional_counts (fun r => ih (by omega : limit ≤ levels + (d + 1)) r) s
      rw [if_neg hlimit, hleft, exprWithin]
      show (observing _ >>= fun outcome => _ : Counting _).run.run (d + 1) = _
      rw [ExceptT.run_bind, StateT.run_bind, run_observing, hinner]
      refine (run_takeBack _ _).trans (congrArg _ ?_)
      show d + 1 + leftCounted _ - 1 = _
      rw [Nat.add_right_comm, Nat.add_sub_cancel]

/-- What is read at a depth is what can be read with the levels that are left, and the depth is as before, or one level
deeper when these ran out. -/
theorem exprAt_eq (limit depth : Nat) (s : List SpannedToken) : exprAt limit depth s =
    (exprWithin limit (limit - depth) s, depth + leftCounted (exprWithin limit (limit - depth) s)) :=
  expr_counts (Nat.le_add_right limit depth) s

end Parser

/-- What the tokens spell is what can be read with all levels. -/
theorem parseTokens_eq (limit : Nat) (tokens : List SpannedToken) : parseTokens limit tokens =
    match Parser.exprWithin limit limit tokens with
    | .ok e =>
      if e.rest.isEmpty then .ok e.value
      else .error (Failure.toError (endOfInput tokens) ⟨.leftover, e.rest⟩)
    | .error f => .error (f.toError (endOfInput tokens)) := by
  rewrite [parseTokens, Parser.exprAt_eq, Nat.sub_zero]
  rfl

end ExprLang
