import ExprLang.Proofs.Syntax.Reading

/-!
# More nesting

A reader that may nest deeper reads the same, except where a reading ran out of nesting; there it goes on behind the
place where the other one stopped. `Deepens` says so of two readings. The levels are taken one after the other, each
from the one below; `exprWithin_deepens` is the induction over the nesting.
-/

namespace ExprLang

namespace Parser

variable {β γ : Type} {b b' c c' : Nat} {same same' : Prop}

/-- How many tokens are left behind a reading that succeeds or runs out of nesting. -/
def left? : Except Failure (Parsed β b) → Option Nat
  | .ok p => some p.rest.length
  | .error f => if f.fault.isTooDeep then some f.rest.length else none

/-- The second of two readings that leave fewer than `c` tokens goes further where the first one runs out of nesting,
unless they are the same reading, and is the same everywhere else. -/
inductive Deepens (same : Prop) (c : Nat) : (x y : Except Failure (Parsed β b)) → Prop
  | ok (p : Parsed β b) : p.rest.length < c → Deepens same c (.ok p) (.ok p)
  | fail (f : Failure) : f.fault.isTooDeep = false → Deepens same c (.error f) (.error f)
  | stay (f : Failure) : same → f.rest.length < c → Deepens same c (.error f) (.error f)
  | further (f : Failure) (y : Except Failure (Parsed β b)) : f.fault.isTooDeep = true → f.rest.length < c →
      (∀ n ∈ left? y, n < f.rest.length) → Deepens same c (.error f) y

namespace Deepens

variable {x y : Except Failure (Parsed β b)} {f f' : Parsed β b → Except Failure (Parsed γ b')}

theorem mono (h : Deepens same c x y) (hc : c ≤ c') (hs : same → same') : Deepens same' c' x y := by
  cases h with
  | ok p hp => exact .ok p (Nat.lt_of_lt_of_le hp hc)
  | fail e he => exact .fail e he
  | stay e h he => exact .stay e (hs h) (Nat.lt_of_lt_of_le he hc)
  | further e y ht he hy => exact .further e y ht (Nat.lt_of_lt_of_le he hc) hy

theorem of_le (h : Deepens same c x y) (hc : c ≤ c') : Deepens same c' x y := h.mono hc id

theorem left_lt (h : Deepens same c x y) : ∀ n ∈ left? y, n < c := by
  intro n hn
  cases h with
  | ok p hp =>
    obtain rfl := Option.some.inj hn
    exact hp
  | fail e he => simp [left?, he] at hn
  | stay e _ he =>
    obtain ⟨-, rfl⟩ : _ ∧ e.rest.length = n := by simpa [left?] using hn
    exact he
  | further e y _ he hy => exact Nat.lt_trans (hy n hn) he

/-- A reading that does not run out of nesting is the same. -/
theorem eq (h : Deepens same c x y) (hx : ∀ e, x = .error e → e.fault.isTooDeep = false) : y = x := by
  cases h with
  | ok p => rfl
  | fail e => rfl
  | stay e => rfl
  | further e y he =>
    rw [hx e rfl] at he
    cases he

/-- What is read next does not go back. -/
theorem bind (hx : Deepens same c x y) (hf : ∀ p, Deepens same (p.rest.length + 1) (f p) (f' p)) :
    Deepens same c (x >>= f) (y >>= f') := by
  cases hx with
  | ok p hp => exact (hf p).of_le hp
  | fail e he => exact .fail e he
  | stay e h he => exact .stay e h he
  | further e y ht he hy =>
    refine .further e _ ht he fun n hn => ?_
    cases y with
    | error => exact hy n hn
    | ok p =>
      have hp : p.rest.length < e.rest.length := hy _ rfl
      have hn : n < p.rest.length + 1 := (hf p).left_lt n hn
      omega

end Deepens

private theorem expect_deepens (y : Symbol) (s : List SpannedToken) :
    Deepens same s.length (expect y s) (expect y s) := by
  unfold expect
  split
  · split
    · exact .ok _ (by simp)
    · exact .fail _ rfl
  · exact .fail _ rfl

section Items

variable {item item' : Reader β} (hi : ∀ s, Deepens same (s.length + 1) (item s) (item' s))
include hi

private theorem moreItems_deepens (close : Symbol) (trailing : Bool) (s : List SpannedToken) :
    Deepens same s.length (moreItems item close trailing s) (moreItems item' close trailing s) := by
  fun_induction moreItems item close trailing s with
  | case1 span rest hc =>
    rw [moreItems, if_pos hc]
    exact .bind ((expect_deepens _ rest).of_le (by simp)) fun c => .ok _ (by simp)
  | case2 span rest hc ih =>
    rw [moreItems, if_neg hc]
    refine .bind ((hi rest).of_le (by simp)) fun x => ?_
    exact .bind ((ih x).of_le (by simp)) fun more => .ok _ (by simp)
  | case3 s hs =>
    rw [moreItems]
    · exact .bind (expect_deepens _ s) fun c => .ok _ (by simp)
    · exact hs

private theorem series_deepens (close : Symbol) (trailing : Bool) (s : List SpannedToken) :
    Deepens same (s.length + 1) (series item close trailing s) (series item' close trailing s) := by
  unfold series
  split
  · exact .bind ((expect_deepens _ s).of_le (by simp)) fun c => .ok _ (by simp)
  · refine .bind (hi s) fun x => ?_
    exact .bind ((moreItems_deepens hi close trailing x.rest).of_le (by simp)) fun more => .ok _ (by simp)

end Items

section Levels

variable {next next' : Reader SpannedExpr} (hn : ∀ s, Deepens same s.length (next s) (next' s))
include hn

private theorem following_deepens (level : Level) (s : List SpannedToken) :
    Deepens same (s.length + 1) (following next level s) (following next' level s) := by
  fun_induction following next level s with
  | case1 =>
    rw [following]
    exact .ok _ (by simp)
  | case2 t rest hop =>
    rw [following, hop]
    exact .ok _ (by simp)
  | case3 t rest op hop ih =>
    rw [following, hop]
    refine .bind ((hn rest).of_le (by simp; omega)) fun e => ?_
    exact .bind (ih e) fun more => .ok _ (by simp)

private theorem run_deepens (level : Level) (s : List SpannedToken) :
    Deepens same s.length (run next level s) (run next' level s) := by
  refine .bind (hn s) fun first => ?_
  exact .bind (following_deepens hn level first.rest) fun more => .ok _ (by simp)

private theorem comparison_deepens (s : List SpannedToken) :
    Deepens same s.length (comparison next s) (comparison next' s) := by
  refine .bind (hn s) fun left => ?_
  split
  · exact .ok _ (by simp)
  · split
    · exact .ok _ (by simp)
    · rename_i t rest hrest _ op _
      refine .bind ((hn rest).of_le (by simp [hrest]; omega)) fun right => ?_
      split
      · exact .fail _ rfl
      · exact .ok _ (by simp)

end Levels

section Nested

variable {nested nested' : Reader SpannedExpr} (hn : ∀ s, Deepens same (s.length + 1) (nested s) (nested' s))
include hn

private theorem entry_deepens (s : List SpannedToken) :
    Deepens same (s.length + 1) (entry nested s) (entry nested' s) := by
  refine .bind (hn s) fun key => ?_
  refine .bind ((expect_deepens _ key.rest).of_le (by simp)) fun colon => ?_
  exact .bind (hn colon.rest) fun value => .ok _ (by simp)

private theorem primary_deepens (s : List SpannedToken) :
    Deepens same s.length (primary nested s) (primary nested' s) := by
  unfold primary
  split
  · exact .ok _ (by simp)
  · exact .ok _ (by simp)
  · exact .fail _ rfl
  · refine .bind ((hn _).of_le (by simp)) fun e => ?_
    exact .bind ((expect_deepens _ e.rest).of_le (by simp)) fun close => .ok _ (by simp)
  · exact .bind ((series_deepens hn _ _ _).of_le (by simp)) fun items => .ok _ (by simp)
  · exact .bind ((series_deepens (entry_deepens hn) _ _ _).of_le (by simp)) fun entries => .ok _ (by simp)
  · exact .fail _ rfl

private theorem suffixes_deepens (e : SpannedExpr) (s : List SpannedToken) :
    Deepens same (s.length + 1) (suffixes nested e s) (suffixes nested' e s) := by
  fun_induction suffixes nested e s with
  | case1 e span rest ih =>
    rw [suffixes]
    refine .bind ((series_deepens hn _ _ rest).of_le (by simp)) fun args => ?_
    exact .bind (ih args) fun more => .ok _ (by simp)
  | case2 e span rest ih =>
    rw [suffixes]
    refine .bind ((hn rest).of_le (by simp)) fun i => ?_
    refine .bind ((expect_deepens _ i.rest).of_le (by simp)) fun close => ?_
    exact .bind (ih i close) fun more => .ok _ (by simp)
  | case3 e _ f _ _ rest ih =>
    rw [suffixes]
    refine .bind ((series_deepens hn _ _ rest).of_le (by simp)) fun args => ?_
    exact .bind (ih args) fun more => .ok _ (by simp)
  | case4 _ _ _ _ _ h =>
    rw [suffixes]
    · exact .fail _ rfl
    · exact h
  | case5 _ _ _ h h' =>
    rw [suffixes]
    · exact .fail _ rfl
    · exact h
    · exact h'
  | case6 =>
    rw [suffixes]
    · exact .ok _ (by simp)
    all_goals assumption

private theorem operand_deepens (s : List SpannedToken) :
    Deepens same s.length (operand nested s) (operand nested' s) := by
  refine .bind (primary_deepens hn s) fun e => ?_
  exact .bind (suffixes_deepens hn e.value e.rest) fun more => .ok _ (by simp)

private theorem signed_deepens (s : List SpannedToken) :
    Deepens same s.length (signed nested s) (signed nested' s) := by
  unfold signed
  split
  · exact operand_deepens hn []
  · split
    · exact operand_deepens hn _
    · rename_i t span rest _ op _
      have hle : (rest.dropWhile (isSign op)).length ≤ rest.length := (List.dropWhile_sublist _).length_le
      dsimp only
      split
      · exact .fail _ rfl
      · exact .bind ((operand_deepens hn _).of_le (by simp; omega)) fun e => .ok _ (by simp)

private theorem disjunction_deepens (s : List SpannedToken) :
    Deepens same s.length (disjunction nested s) (disjunction nested' s) := by
  have additive := run_deepens (run_deepens (signed_deepens hn) .multiplicative) .additive
  exact run_deepens (run_deepens (comparison_deepens additive) .and) .or s

private theorem conditional_deepens (s : List SpannedToken) :
    Deepens same s.length (conditional nested s) (conditional nested' s) := by
  refine .bind (disjunction_deepens hn s) fun cond => ?_
  split
  · rename_i span rest hrest
    refine .bind ((disjunction_deepens hn rest).of_le (by simp [hrest]; omega)) fun yes => ?_
    refine .bind ((expect_deepens _ yes.rest).of_le (by simp)) fun colon => ?_
    exact .bind (hn colon.rest) fun no => .ok _ (by simp)
  · exact .ok _ (by simp)

end Nested

private theorem exprWithin_deepens_self (limit n : Nat) (s : List SpannedToken) :
    Deepens True (s.length + 1) (exprWithin limit n s) (exprWithin limit n s) := by
  induction n generalizing s with
  | zero => exact .stay _ trivial (Nat.lt_succ_self _)
  | succ n ih => exact (conditional_deepens ih s).of_le (Nat.le_succ _)

/-- Of two readers, the one that may nest deeper reads the same, or goes further than where the nesting of the other one
ran out, whatever bounds they name in their faults. -/
theorem exprWithin_deepens_of_lt (limit limit' : Nat) {n m : Nat} (h : n < m) (s : List SpannedToken) :
    Deepens False (s.length + 1) (exprWithin limit n s) (exprWithin limit' m s) := by
  induction n generalizing m s with
  | zero =>
    cases m with
    | zero => omega
    | succ m =>
      have hlt := (conditional_deepens (exprWithin_deepens_self limit' m) s).left_lt
      exact .further _ _ rfl (Nat.lt_succ_self _) hlt
  | succ n ih =>
    cases m with
    | zero => omega
    | succ m => exact (conditional_deepens (ih (Nat.lt_of_succ_lt_succ h)) s).of_le (Nat.le_succ _)

/-- An expression that may nest deeper reads the same, or goes further than where the nesting ran out. -/
theorem exprWithin_deepens (limit : Nat) {n m : Nat} (h : n ≤ m) (s : List SpannedToken) :
    Deepens (n = m) (s.length + 1) (exprWithin limit n s) (exprWithin limit m s) := by
  rcases Nat.lt_or_eq_of_le h with hlt | rfl
  · exact (exprWithin_deepens_of_lt limit limit hlt s).mono (Nat.le_refl _) False.elim
  · exact (exprWithin_deepens_self limit n s).mono (Nat.le_refl _) fun _ => rfl

end Parser
end ExprLang
