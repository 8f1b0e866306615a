import ExprLang.Proofs.Syntax.Nesting

/-!
# Completing what was read

A reading that ends with a fault has taken tokens that begin a phrase (`Viable`): what is missing behind them are
operands, closing symbols and the rest of open conditions, and a name will do for each operand. The levels are taken one
after the other, each from the one below (`Completes`). A reading that runs out of nesting is left out; in all others
the phrase may have to nest one level deeper than the reading was allowed to, for an operand that stands where the fault
is. `completes_exprWithin` is the induction over the nesting.
-/

namespace ExprLang.Parser

open Grammar

variable {β γ : Type}

/-- The tokens begin a phrase. -/
def Viable (P : Phrase γ) (T : List Token) : Prop := ∃ S x, P (T ++ S) x

/-- What the reader takes in front of a fault begins a phrase, unless the fault is a lack of nesting. -/
def Completes (reader : Reader β) (P : Phrase γ) : Prop :=
  ∀ s f, reader s = .error f → f.fault.isTooDeep = false → ∃ T, kinds s = T ++ kinds f.rest ∧ Viable P T

theorem bind_eq_error {ε α δ : Type} {x : Except ε α} {f : α → Except ε δ} {e : ε} :
    x >>= f = .error e ↔ x = .error e ∨ ∃ a, x = .ok a ∧ f a = .error e := by
  cases x with
  | error e' => simp [bind, Except.bind]
  | ok a => simp [bind, Except.bind]

private theorem rest_of_expect {y : Symbol} {s : List SpannedToken} {f : Failure}
    (h : (expect y : Reader Span) s = .error f) : f.rest = s := by
  unfold expect at h
  split at h
  · split at h
    · cases h
    · cases h
      rfl
  · cases h
    rfl

private theorem expect_of_startsWith {y : Symbol} {s : List SpannedToken} {f : Failure}
    (h : startsWith y s = true) : (expect y : Reader Span) s ≠ .error f := by
  obtain ⟨R, hR⟩ := startsWith_iff.1 h
  obtain ⟨p, hp, -⟩ := expect_complete hR
  rw [hp]
  nofun

/-! ### Series -/

section Series

variable {item : Reader β} {P : Phrase γ} {view : β → γ} {close : Symbol} {trailing : Bool}
  (hs : Sound view item P) (hc : Completes item P)
include hs hc

private theorem completes_moreItems (s : List SpannedToken) (f : Failure)
    (h : moreItems item close trailing s = .error f) (hf : f.fault.isTooDeep = false) :
    ∃ T, kinds s = T ++ kinds f.rest ∧ Viable (More P) T := by
  fun_induction moreItems item close trailing s with
  | case1 span rest hclose =>
    rw [Bool.and_eq_true] at hclose
    rcases bind_eq_error.1 h with h | ⟨c, _, h⟩
    · exact absurd h (expect_of_startsWith hclose.2)
    · cases h
  | case2 span rest _ ih =>
    rcases bind_eq_error.1 h with hx | ⟨x, hx, h⟩
    · obtain ⟨T, hT, S, y, hy⟩ := hc _ _ hx hf
      exact ⟨.symbol .comma :: T, by simp [hT], S, [y], by simpa using More.cons hy .nil⟩
    · obtain ⟨T, hT, hP⟩ := hs _ _ hx
      rcases bind_eq_error.1 h with hm | ⟨more, _, h⟩
      · obtain ⟨U, hU, S, ys, hys⟩ := ih x hm
        exact ⟨.symbol .comma :: (T ++ U), by simp [hT, hU], S, _, by simpa using More.cons hP hys⟩
      · cases h
  | case3 s _ =>
    rcases bind_eq_error.1 h with h | ⟨c, _, h⟩
    · rw [rest_of_expect h]
      exact ⟨[], rfl, [], [], .nil⟩
    · cases h

private theorem completes_series : Completes (series item close trailing) (Enclosed P trailing) := by
  intro s f h hf
  unfold series at h
  split at h
  · rename_i hclose
    rcases bind_eq_error.1 h with h | ⟨c, _, h⟩
    · exact absurd h (expect_of_startsWith hclose)
    · cases h
  · rcases bind_eq_error.1 h with hx | ⟨x, hx, h⟩
    · obtain ⟨T, hT, S, y, hy⟩ := hc _ _ hx hf
      exact ⟨T, hT, S, [y], by simpa using Enclosed.series hy .nil⟩
    · obtain ⟨T, hT, hP⟩ := hs _ _ hx
      rcases bind_eq_error.1 h with hm | ⟨more, _, h⟩
      · obtain ⟨U, hU, S, ys, hys⟩ := completes_moreItems hs hc _ _ hm hf
        exact ⟨T ++ U, by simp [hT, hU], S, _, by simpa using Enclosed.series hP hys⟩
      · cases h

end Series

/-! ### Operands -/

section Operands

variable {nested : Reader SpannedExpr} {E : Phrase Tree}

/-- A name stands for a missing operand. -/
private theorem member_name (s : String) : Member E [.name s] (.name () s) := ⟨0, .primary (.name s)⟩

private theorem viable_member_nil : Viable (Member E) [] := ⟨_, _, member_name "x"⟩

variable (hs : Sound Expr.erase nested E) (hc : Completes nested E)
include hs hc

/-- The suffixes in front of a fault go on with the operand `U` that they stand behind. -/
private theorem completes_suffixes (e : SpannedExpr) (s : List SpannedToken) (f : Failure)
    (h : suffixes nested e s = .error f) (hf : f.fault.isTooDeep = false) (k : Nat) (U : List Token)
    (hU : Suffixed E k U e.erase) : ∃ T, kinds s = T ++ kinds f.rest ∧ Viable (Member E) (U ++ T) := by
  fun_induction suffixes nested e s generalizing k U with
  | case1 e span rest ih =>
    rcases bind_eq_error.1 h with ha | ⟨args, ha, h⟩
    · obtain ⟨T, hT, S, xs, hxs⟩ := completes_series hs hc _ _ ha hf
      exact ⟨.symbol .openParen :: T, by simp [hT], S ++ [.symbol .closeParen], _, k + 1,
        by simpa using Suffixed.call hU hxs⟩
    · obtain ⟨A, hA, hargs⟩ := series_sound hs ha
      rcases bind_eq_error.1 h with hm | ⟨more, _, h⟩
      · obtain ⟨T, hT, hV⟩ := ih args hm _ _ (by simpa using Suffixed.call hU hargs)
        exact ⟨.symbol .openParen :: (A ++ .symbol .closeParen :: T), by simp [hA, hT], by simpa using hV⟩
      · cases h
  | case2 e span rest ih =>
    rcases bind_eq_error.1 h with hi | ⟨i, hi, h⟩
    · obtain ⟨T, hT, S, x, hx⟩ := hc _ _ hi hf
      exact ⟨.symbol .openBracket :: T, by simp [hT], S ++ [.symbol .closeBracket], _, k + 1,
        by simpa using Suffixed.index hU hx⟩
    · obtain ⟨I, hI, hidx⟩ := hs _ _ hi
      rcases bind_eq_error.1 h with hclose | ⟨close, hclose, h⟩
      · rw [rest_of_expect hclose]
        exact ⟨.symbol .openBracket :: I, by simp [hI], [.symbol .closeBracket], _, k + 1,
          by simpa using Suffixed.index hU hidx⟩
      · rcases bind_eq_error.1 h with hm | ⟨more, _, h⟩
        · obtain ⟨T, hT, hV⟩ := ih i close hm _ _ (by simpa using Suffixed.index hU hidx)
          exact ⟨.symbol .openBracket :: (I ++ .symbol .closeBracket :: T),
            by simp [hI, expect_sound hclose, hT], by simpa using hV⟩
        · cases h
  | case3 e dot g span span' rest ih =>
    rcases bind_eq_error.1 h with ha | ⟨args, ha, h⟩
    · obtain ⟨T, hT, S, xs, hxs⟩ := completes_series hs hc _ _ ha hf
      exact ⟨.symbol .dot :: .name g :: .symbol .openParen :: T, by simp [hT], S ++ [.symbol .closeParen], _, k + 1,
        by simpa using Suffixed.method (f := g) hU hxs⟩
    · obtain ⟨A, hA, hargs⟩ := series_sound hs ha
      rcases bind_eq_error.1 h with hm | ⟨more, _, h⟩
      · obtain ⟨T, hT, hV⟩ := ih args hm _ _ (by simpa using Suffixed.method (f := g) hU hargs)
        exact ⟨.symbol .dot :: .name g :: .symbol .openParen :: (A ++ .symbol .closeParen :: T), by simp [hA, hT],
          by simpa using hV⟩
      · cases h
  | case4 e dot g span rest _ =>
    cases h
    exact ⟨[.symbol .dot, .name g], rfl, [.symbol .openParen, .symbol .closeParen], _, k + 1,
      by simpa using Suffixed.method (f := g) hU .nothing⟩
  | case5 e dot rest _ _ =>
    cases h
    exact ⟨[.symbol .dot], rfl, [.name "f", .symbol .openParen, .symbol .closeParen], _, k + 1,
      by simpa using Suffixed.method (f := "f") hU .nothing⟩
  | case6 e s => cases h

variable (hE : Viable E [])
include hE

private theorem completes_entry : Completes (entry nested) (Entry E) := by
  obtain ⟨N, n, hN⟩ := hE
  rw [List.nil_append] at hN
  intro s f h hf
  rcases bind_eq_error.1 h with hk | ⟨key, hk, h⟩
  · obtain ⟨T, hT, S, x, hx⟩ := hc _ _ hk hf
    exact ⟨T, hT, S ++ .symbol .colon :: N, (x, n), by simpa using Entry.mk hx hN⟩
  · obtain ⟨T, hT, hP⟩ := hs _ _ hk
    rcases bind_eq_error.1 h with hcolon | ⟨colon, hcolon, h⟩
    · rw [rest_of_expect hcolon]
      exact ⟨T, hT, .symbol .colon :: N, _, by simpa using Entry.mk hP hN⟩
    · rcases bind_eq_error.1 h with hv | ⟨value, _, h⟩
      · obtain ⟨U, hU, S, x, hx⟩ := hc _ _ hv hf
        exact ⟨T ++ .symbol .colon :: U, by simp [hT, expect_sound hcolon, hU], S, _, by simpa using Entry.mk hP hx⟩
      · cases h

private theorem completes_primary : Completes (primary nested) (Primary E) := by
  intro s f h hf
  have nothing (h : f.rest = s) : ∃ T, kinds s = T ++ kinds f.rest ∧ Viable (Primary E) T :=
    ⟨[], by rw [h]; rfl, _, _, .name "x"⟩
  unfold primary at h
  split at h
  · cases h
  · cases h
  · cases h
    exact nothing rfl
  · rcases bind_eq_error.1 h with he | ⟨e, he, h⟩
    · obtain ⟨T, hT, S, x, hx⟩ := hc _ _ he hf
      exact ⟨.symbol .openParen :: T, by simp [hT], S ++ [.symbol .closeParen], x, by simpa using Primary.group hx⟩
    · obtain ⟨T, hT, hP⟩ := hs _ _ he
      rcases bind_eq_error.1 h with hclose | ⟨close, _, h⟩
      · rw [rest_of_expect hclose]
        exact ⟨.symbol .openParen :: T, by simp [hT], [.symbol .closeParen], _, by simpa using Primary.group hP⟩
      · cases h
  · rcases bind_eq_error.1 h with he | ⟨items, _, h⟩
    · obtain ⟨T, hT, S, xs, hxs⟩ := completes_series hs hc _ _ he hf
      exact ⟨.symbol .openBracket :: T, by simp [hT], S ++ [.symbol .closeBracket], _, by simpa using Primary.list hxs⟩
    · cases h
  · rcases bind_eq_error.1 h with he | ⟨entries, _, h⟩
    · obtain ⟨T, hT, S, xs, hxs⟩ := completes_series (sound_entry hs) (completes_entry hs hc hE) _ _ he hf
      exact ⟨.symbol .openBrace :: T, by simp [hT], S ++ [.symbol .closeBrace], _, by simpa using Primary.map hxs⟩
    · cases h
  · cases h
    exact nothing rfl

private theorem completes_operand : Completes (operand nested) (Member E) := by
  intro s f h hf
  rcases bind_eq_error.1 h with he | ⟨e, he, h⟩
  · obtain ⟨T, hT, S, x, hx⟩ := completes_primary hs hc hE _ _ he hf
    exact ⟨T, hT, S, x, 0, .primary hx⟩
  · obtain ⟨U, hU, hp⟩ := sound_primary hs _ _ he
    rcases bind_eq_error.1 h with hm | ⟨more, _, h⟩
    · obtain ⟨T, hT, hV⟩ := completes_suffixes hs hc _ _ _ hm hf 0 U (.primary hp)
      exact ⟨U ++ T, by simp [hU, hT], hV⟩
    · cases h

end Operands

/-! ### Signs -/

private theorem completes_signed {nested : Reader SpannedExpr} {member : Phrase Tree}
    (ho : Completes (operand nested) member) (hm : Viable member []) : Completes (signed nested) (Unary member) := by
  intro s f h hf
  have bare {s : List SpannedToken} (h : operand nested s = .error f) :
      ∃ T, kinds s = T ++ kinds f.rest ∧ Viable (Unary member) T := by
    obtain ⟨T, hT, S, x, hx⟩ := ho _ _ h hf
    exact ⟨T, hT, S, x, .bare hx⟩
  unfold signed at h
  split at h
  · exact bare h
  · rename_i t span rest
    split at h
    · exact bare h
    · rename_i op hop
      cases t with
      | literal | name | reserved => cases hop
      | symbol y =>
        have hy : (y, op) ∈ signs := mem_signs_iff.2 hop
        have hrun := kinds_eq_replicate hy rest
        let k := (rest.takeWhile (isSign op)).length
        dsimp only at h
        split at h
        · -- the other sign stands where an operand is missing
          cases h
          obtain ⟨N, n, hN⟩ := hm
          rw [List.nil_append] at hN
          exact ⟨List.replicate (k + 1) (.symbol y), by rw [kinds_cons, hrun, List.replicate_succ]; rfl, N, _,
            .signed k hy hN⟩
        · rcases bind_eq_error.1 h with he | ⟨e, _, h⟩
          · obtain ⟨T, hT, S, x, hx⟩ := ho _ _ he hf
            refine ⟨List.replicate (k + 1) (.symbol y) ++ T, ?_, S, .unary () op (k + 1) x, ?_⟩
            · rw [kinds_cons, hrun, hT, List.replicate_succ]
              simp [k]
            · rw [List.append_assoc]
              exact .signed k hy hx
          · cases h

/-! ### Operators between operands -/

section Chains

variable {next : Reader SpannedExpr} {operand : Phrase Tree} (hs : Sound Expr.erase next operand)
  (hc : Completes next operand)
include hs hc

private theorem completes_following (level : Level) (s : List SpannedToken) (f : Failure)
    (h : following next level s = .error f) (hf : f.fault.isTooDeep = false) :
    ∃ T, kinds s = T ++ kinds f.rest ∧ Viable (Following operand (operators level)) T := by
  fun_induction following next level s with
  | case1 => cases h
  | case2 t rest hop => cases h
  | case3 t rest op hop ih =>
    obtain ⟨t, span⟩ := t
    cases t with
    | literal | name | reserved => cases hop
    | symbol y =>
      have hy : (y, op) ∈ operators level := mem_operators_iff.2 hop
      rcases bind_eq_error.1 h with he | ⟨e, he, h⟩
      · obtain ⟨T, hT, S, x, hx⟩ := hc _ _ he hf
        exact ⟨.symbol y :: T, by simp [hT], S, [(op, x)], by simpa using Following.cons hy hx .nil⟩
      · obtain ⟨T, hT, ho⟩ := hs _ _ he
        rcases bind_eq_error.1 h with hm | ⟨more, _, h⟩
        · obtain ⟨U, hU, S, xs, hxs⟩ := ih e hm
          exact ⟨.symbol y :: (T ++ U), by simp [hT, hU], S, _, by simpa using Following.cons hy ho hxs⟩
        · cases h

private theorem completes_run (level : Level) : Completes (run next level) (Run operand level) := by
  intro s f h hf
  rcases bind_eq_error.1 h with hfirst | ⟨first, hfirst, h⟩
  · obtain ⟨T, hT, S, x, hx⟩ := hc _ _ hfirst hf
    exact ⟨T, hT, S, x, .lone hx⟩
  · obtain ⟨T, hT, ho⟩ := hs _ _ hfirst
    rcases bind_eq_error.1 h with hm | ⟨more, _, h⟩
    · obtain ⟨U, hU, S, xs, hxs⟩ := completes_following hs hc level _ _ hm hf
      refine ⟨T ++ U, by simp [hT, hU], S, ?_⟩
      rw [List.append_assoc]
      -- a run without operators is a lone operand
      cases xs with
      | nil =>
        generalize U ++ S = V at hxs
        cases hxs
        exact ⟨_, .lone (by simpa using ho)⟩
      | cons x xs => exact ⟨_, .chain ho hxs⟩
    · cases h

private theorem completes_comparison : Completes (comparison next) (Relation operand) := by
  intro s f h hf
  unfold comparison at h
  rcases bind_eq_error.1 h with hl | ⟨left, hl, h⟩
  · obtain ⟨T, hT, S, x, hx⟩ := hc _ _ hl hf
    exact ⟨T, hT, S, x, .lone hx⟩
  · obtain ⟨T, hT, hoT⟩ := hs _ _ hl
    split at h
    · cases h
    · rename_i t rest hrest
      split at h
      · cases h
      · rename_i op hop
        obtain ⟨t, span⟩ := t
        cases t with
        | literal | name | reserved => cases hop
        | symbol y =>
          have hy : (y, op) ∈ relations := mem_relations_iff.2 hop
          rcases bind_eq_error.1 h with hr | ⟨right, hr, h⟩
          · obtain ⟨U, hU, S, x, hx⟩ := hc _ _ hr hf
            exact ⟨T ++ .symbol y :: U, by simp [hT, hrest, hU], S, _, by simpa using Relation.compare hoT hy hx⟩
          · obtain ⟨U, hU, hoU⟩ := hs _ _ hr
            split at h
            · cases h
              exact ⟨T ++ .symbol y :: U, by simp [hT, hrest, hU], [], _, by simpa using Relation.compare hoT hy hoU⟩
            · cases h

end Chains

/-! ### Expressions -/

section Expressions

variable {nested : Reader SpannedExpr} {member E : Phrase Tree}

private theorem viable_disjunction_nil (hm : Viable member []) : Viable (Disjunction member) [] := by
  obtain ⟨N, n, hN⟩ := hm
  exact ⟨N, n, .lone (.lone (.lone (.lone (.lone (.bare hN)))))⟩

private theorem completes_disjunction (hs : Sound Expr.erase (operand nested) member)
    (hc : Completes (operand nested) member) (hm : Viable member []) :
    Completes (disjunction nested) (Disjunction member) := by
  have multiplicative := completes_run (sound_signed hs) (completes_signed hc hm) .multiplicative
  have additive := completes_run (sound_run _ (sound_signed hs)) multiplicative .additive
  have hadditive := sound_run .additive (sound_run .multiplicative (sound_signed hs))
  have and := completes_run (sound_comparison hadditive) (completes_comparison hadditive additive) .and
  exact completes_run (sound_run _ (sound_comparison hadditive)) and .or

private theorem completes_conditional (hds : Sound Expr.erase (disjunction nested) (Disjunction member))
    (hdc : Completes (disjunction nested) (Disjunction member)) (hd : Viable (Disjunction member) [])
    (hc : Completes nested E) (hE : Viable E []) : Completes (conditional nested) (Conditional member E) := by
  obtain ⟨D, d, hD⟩ := hd
  obtain ⟨N, n, hN⟩ := hE
  rw [List.nil_append] at hD hN
  intro s f h hf
  rcases bind_eq_error.1 h with hcond | ⟨cond, hcond, h⟩
  · obtain ⟨T, hT, S, x, hx⟩ := hdc _ _ hcond hf
    exact ⟨T, hT, S, x, .plain hx⟩
  · obtain ⟨C, hC, hPc⟩ := hds _ _ hcond
    split at h
    · rename_i span rest hrest
      rcases bind_eq_error.1 h with hyes | ⟨yes, hyes, h⟩
      · obtain ⟨T, hT, S, x, hx⟩ := hdc _ _ hyes hf
        exact ⟨C ++ .symbol .question :: T, by simp [hC, hrest, hT], S ++ .symbol .colon :: N, _,
          by simpa using Conditional.ternary hPc hx hN⟩
      · obtain ⟨Y, hY, hPy⟩ := hds _ _ hyes
        rcases bind_eq_error.1 h with hcolon | ⟨colon, hcolon, h⟩
        · rw [rest_of_expect hcolon]
          exact ⟨C ++ .symbol .question :: Y, by simp [hC, hrest, hY], .symbol .colon :: N, _,
            by simpa using Conditional.ternary hPc hPy hN⟩
        · rcases bind_eq_error.1 h with hno | ⟨no, _, h⟩
          · obtain ⟨T, hT, S, x, hx⟩ := hc _ _ hno hf
            exact ⟨C ++ .symbol .question :: (Y ++ .symbol .colon :: T),
              by simp [hC, hrest, hY, expect_sound hcolon, hT], S, _, by simpa using Conditional.ternary hPc hPy hx⟩
          · cases h
    · cases h

end Expressions

/-- What is taken in front of a fault begins an expression. -/
theorem completes_exprWithin (limit depth : Nat) : Completes (exprWithin limit depth) (Expression (depth + 1)) := by
  induction depth with
  | zero =>
    -- the only fault is the one that is left out
    intro s f h hf
    cases h
    cases hf
  | succ depth ih =>
    have hs : Sound Expr.erase (exprWithin limit depth) (Expression (depth + 1)) := by
      intro s p h
      obtain ⟨T, hT, hE⟩ := (reads_exprWithin limit depth).sound s p h
      exact ⟨T, hT, expression_within (Nat.le_succ depth) _ _ (Nat.le_refl _) hE⟩
    have hname : Viable (Disjunction (Member (Expression depth))) [] := viable_disjunction_nil viable_member_nil
    have hE : Viable (Expression (depth + 1)) [] := by
      obtain ⟨N, n, hN⟩ := hname
      exact ⟨N, n, .plain hN⟩
    have hoperand := completes_operand hs ih hE
    have hdisjunction := completes_disjunction (sound_operand hs) hoperand viable_member_nil
    exact completes_conditional (sound_disjunction (sound_operand hs)) hdisjunction
      (viable_disjunction_nil viable_member_nil) ih hE

end ExprLang.Parser
