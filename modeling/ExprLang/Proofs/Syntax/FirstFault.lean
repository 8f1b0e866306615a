import ExprLang.Proofs.Syntax.Completion
import ExprLang.Proofs.Syntax.Lookahead
import ExprLang.Proofs.Syntax.Session

/-!
# The first impossible token

An error stands at the first token that no expression goes on with: the tokens in front of it begin an expression, and
together with it they begin none (`span_of_parseTokens_error`). The first half is the completion of what was read, the
second holds because a reading looks only one token ahead: it fails on all tokens that begin in the same way. Errors for
lack of nesting are no such errors; all other readings are the same however deep they may nest (`exprWithin_eq_of_le`).
-/

namespace ExprLang

open Grammar

variable {limit n m : Nat} {tokens u r : List SpannedToken} {t : SpannedToken}

/-- The place of the token with the given number, or the end of the input where there is none. -/
def placeOf (tokens : List SpannedToken) (i : Nat) : Span := (tokens[i]?.map Prod.snd).getD (endOfInput tokens)

/-- A fault stands at the token behind those that were taken. -/
theorem span_toError (fault : SyntaxFault) (u r : List SpannedToken) :
    (Failure.toError (endOfInput (u ++ r)) ⟨fault, r⟩).span = placeOf (u ++ r) u.length := by
  rcases r with _ | ⟨⟨t, span⟩, r⟩
  · simp [Failure.toError, ParseError.span, placeOf]
  · simp [Failure.toError, ParseError.span, placeOf]

/-- A reading that does not run out of nesting is the same with more of it. -/
theorem Parser.exprWithin_eq_of_le (h : n ≤ m)
    (hdeep : ∀ f, exprWithin limit n tokens = .error f → f.fault.isTooDeep = false) :
    exprWithin limit m tokens = exprWithin limit n tokens := (exprWithin_deepens limit h tokens).eq hdeep

/-- The reading does not run out of nesting. -/
def Nests (limit : Nat) (tokens : List SpannedToken) : Prop :=
  ∀ f, Parser.exprWithin limit limit tokens = .error f → f.fault.isTooDeep = false

/-- Tokens that begin like those that a reading took and stopped at are no expression. -/
theorem not_expression_of_stopped (hnests : Nests limit tokens)
    (hstop : (Parser.stopped (Parser.exprWithin limit limit tokens)).2 = t :: r) (htokens : tokens = u ++ t :: r)
    {T : List Token} (hT : kinds (u ++ [t]) <+: T) (x : Tree) : ¬ Expression n T x := by
  intro hx
  obtain ⟨V, rfl⟩ := hT
  obtain ⟨v, rfl⟩ := exists_kinds V
  -- with enough nesting for both, the reading goes as before, and reads all of the expression
  let m := max limit n
  have hsame : Parser.exprWithin limit m tokens = Parser.exprWithin limit limit tokens :=
    Parser.exprWithin_eq_of_le (Nat.le_max_left limit n) hnests
  have hm : Expression m (kinds (u ++ [t]) ++ kinds v) x :=
    expression_within (Nat.le_max_right limit n) _ _ (Nat.le_refl _) hx
  have hkinds : kinds (u ++ t :: v) = kinds (u ++ [t]) ++ kinds v ++ [] := by
    simp [kinds]
  obtain ⟨p, hp, hrest, -⟩ := (Parser.reads_exprWithin limit m).complete _ _ [] x hkinds hm settled_nil
  obtain ⟨w, hw, hexchange⟩ := Parser.oneAhead_exprWithin limit m tokens
  dsimp only at hw hexchange
  rw [hsame, hstop] at hw hexchange
  obtain rfl : u = w := List.append_cancel_right (htokens.symm.trans hw)
  have hread := hexchange (t :: v) rfl
  rw [hp] at hread
  have hp : p.rest = t :: v := congrArg Prod.snd hread
  rw [hp] at hrest
  cases hrest

/-- What an error is made of: a fault where the reading stopped, behind tokens that begin an expression. -/
private theorem exists_fault {e : ParseError} (h : parseTokens limit tokens = .error e) (hdeep : e.isTooDeep = false) :
    Nests limit tokens ∧ ∃ fault u r, tokens = u ++ r ∧ e = Failure.toError (endOfInput tokens) ⟨fault, r⟩ ∧
      (Parser.stopped (Parser.exprWithin limit limit tokens)).2 = r ∧
      Parser.Viable (Expression (limit + 1)) (kinds u) := by
  obtain ⟨u, hu, -⟩ := Parser.oneAhead_exprWithin limit limit tokens
  dsimp only at hu
  have hkinds := congrArg kinds hu
  rw [kinds_append] at hkinds
  rw [parseTokens_eq] at h
  split at h
  · rename_i p hp
    split at h
    · cases h
    · cases h
      rw [hp] at hu hkinds
      have hnests : Nests limit tokens := by
        intro f hf
        rw [hp] at hf
        cases hf
      -- what was read is an expression already
      obtain ⟨T, hT, hE⟩ := (Parser.reads_exprWithin limit limit).sound _ _ hp
      obtain rfl : T = kinds u := List.append_cancel_right (hT.symm.trans hkinds)
      have hviable : Parser.Viable (Expression (limit + 1)) (kinds u) := by
        refine ⟨[], p.value.erase, ?_⟩
        rw [List.append_nil]
        exact expression_within (Nat.le_succ limit) _ _ (Nat.le_refl _) hE
      exact ⟨hnests, .leftover, u, p.rest, hu, rfl, by rw [hp]; rfl, hviable⟩
  · rename_i f hf
    cases h
    rw [Failure.isTooDeep_toError] at hdeep
    rw [hf] at hu hkinds
    have hnests : Nests limit tokens := by
      intro g hg
      rw [hf] at hg
      cases hg
      exact hdeep
    obtain ⟨T, hT, hviable⟩ := Parser.completes_exprWithin limit limit _ _ hf hdeep
    obtain rfl : T = kinds u := List.append_cancel_right (hT.symm.trans hkinds)
    exact ⟨hnests, f.fault, u, f.rest, hu, rfl, by rw [hf]; rfl, hviable⟩

/-- An error stands at the first impossible token, or at the end of the input: unless nesting ran out, the tokens in
front of the place of the error can be completed to an expression, and no tokens that begin with these and the one at
that place are an expression, however deep expressions may nest. -/
theorem span_of_parseTokens_error (limit : Nat) (tokens : List SpannedToken) (e : ParseError)
    (h : parseTokens limit tokens = .error e) (hdeep : e.isTooDeep = false) :
    ∃ i ≤ tokens.length, e.span = placeOf tokens i ∧
      (∃ more n x, parseTokens n (tokens.take i ++ more) = .ok x) ∧
      (i < tokens.length → ∀ n others, kinds (tokens.take (i + 1)) <+: kinds others →
        ∀ x, parseTokens n others ≠ .ok x) := by
  obtain ⟨hnests, fault, u, r, htokens, he, hstop, S, x, hx⟩ := exists_fault h hdeep
  refine ⟨u.length, ?_, ?_, ?_, ?_⟩
  · rw [htokens]
    simp
  · rw [he, htokens]
    exact span_toError fault u r
  · obtain ⟨more, rfl⟩ := exists_kinds S
    rw [← kinds_append] at hx
    obtain ⟨y, hy, -⟩ := parseTokens_eq_ok_iff.mpr hx
    have htake : tokens.take u.length = u := by rw [htokens, List.take_left]
    rw [htake]
    exact ⟨more, limit + 1, y, hy⟩
  · intro hi n others hothers y hy
    rcases r with _ | ⟨t, r⟩
    · rw [htokens] at hi
      simp at hi
    · have htake : tokens.take (u.length + 1) = u ++ [t] := by
        rw [htokens, List.take_length_add_append]
        rfl
      rw [htake] at hothers
      exact not_expression_of_stopped hnests hstop htokens hothers y.erase (parseTokens_eq_ok_iff.mp ⟨y, hy, rfl⟩)

/-- The tokens of `m[!!x < y < z]`. -/
private def twoComparisons : List SpannedToken :=
  [(.name "m", ⟨0, 1⟩), (.symbol .openBracket, ⟨1, 2⟩), (.symbol .not, ⟨2, 3⟩), (.symbol .not, ⟨3, 4⟩),
    (.name "x", ⟨4, 5⟩), (.symbol .lt, ⟨6, 7⟩), (.name "y", ⟨8, 9⟩), (.symbol .lt, ⟨10, 11⟩), (.name "z", ⟨12, 13⟩),
    (.symbol .closeBracket, ⟨13, 14⟩)]

/-- The error for a second comparison stands at its sign, also inside of brackets. -/
theorem span_of_second_comparison :
    ∃ e, parseTokens 2 twoComparisons = .error e ∧ e.isTooDeep = false ∧ e.span = placeOf twoComparisons 7 ∧
      ∃ i ≤ twoComparisons.length, e.span = placeOf twoComparisons i ∧
        (∃ more n x, parseTokens n (twoComparisons.take i ++ more) = .ok x) ∧
        (i < twoComparisons.length → ∀ n others, kinds (twoComparisons.take (i + 1)) <+: kinds others →
          ∀ x, parseTokens n others ≠ .ok x) := by
  have h : parseTokens 2 twoComparisons =
      .error (.syntactic (.chainedRelation .lt .lt) (some (.symbol .lt)) ⟨10, 11⟩) := by
    rw [parseTokens_eq]
    cbv
  exact ⟨_, h, rfl, rfl, span_of_parseTokens_error _ _ _ h rfl⟩

end ExprLang
