import ExprLang.Proofs.Syntax.FirstFault

/-!
# The longest expression

A session takes the longest expression at its place and nothing more (`next_longest`). The tokens that a reading takes
are read as the same tree alone, since what was read does not depend on what stands behind it; and no more of the tokens
are an expression, since a reading of more of them would stop at the same place and leave something over. So as long as
its readings succeed, a session splits the tokens into expressions (`Splits`).
-/

namespace ExprLang

variable {limit : Nat} {tokens u r : List SpannedToken} {e : SpannedExpr} {es : List SpannedExpr}

/-- The tokens `u`, at least one, are read as `e`, and together with some of the tokens `r` behind them they are no
expression, however deep it may nest. -/
structure IsLongest (limit : Nat) (u r : List SpannedToken) (e : SpannedExpr) : Prop where
  nonempty : u ≠ []
  reads : parseTokens limit u = .ok e
  stops : ∀ v w, r = v ++ w → v ≠ [] → ∀ n x, parseTokens n (u ++ v) ≠ .ok x

/-- The tokens begin with parts that are read as the trees, one behind the other and each the longest expression at its
place; `r` is behind them. -/
inductive Splits (limit : Nat) (r : List SpannedToken) : (tokens : List SpannedToken) → List SpannedExpr → Prop
  | nothing : Splits limit r r []
  | part {u s : List SpannedToken} {e : SpannedExpr} {es : List SpannedExpr} (h : IsLongest limit u s e)
      (hs : Splits limit r s es) : Splits limit r (u ++ s) (e :: es)

/-- What a reading takes is the longest expression at the front of the tokens. -/
theorem isLongest_of_exprWithin {p : Parsed SpannedExpr tokens.length}
    (h : Parser.exprWithin limit limit tokens = .ok p) :
    ∃ u, tokens = u ++ p.rest ∧ IsLongest limit u p.rest p.value := by
  obtain ⟨u, htokens, -, halone⟩ := Parser.severable_exprWithin limit limit tokens
  dsimp only at htokens halone
  rw [h] at htokens halone
  refine ⟨u, htokens, ?_, ?_, ?_⟩
  · rintro rfl
    have hlength : tokens.length = p.rest.length := congrArg List.length htokens
    exact Nat.ne_of_gt p.shorter hlength
  · obtain ⟨q, hq, hvalue, hrest⟩ := Parser.stopped_eq_ok (halone p.value rfl)
    rw [parseTokens_eq, hq]
    simp only [hrest, hvalue, List.isEmpty_nil, if_true]
  · intro v w hv hne n x hx
    obtain ⟨t, v, rfl⟩ := List.exists_cons_of_ne_nil hne
    have hnests : Nests limit tokens := by
      intro f hf
      rw [h] at hf
      cases hf
    have hstop : (Parser.stopped (Parser.exprWithin limit limit tokens)).2 = t :: (v ++ w) := by
      rw [h]
      exact hv
    have hprefix : kinds (u ++ [t]) <+: kinds (u ++ t :: v) := by
      rw [List.append_cons u t v, kinds_append _ v]
      exact List.prefix_append _ _
    refine not_expression_of_stopped hnests hstop ?_ hprefix x.erase (parseTokens_eq_ok_iff.mp ⟨x, hx, rfl⟩)
    rw [htokens]
    exact congrArg (u ++ ·) hv

namespace Session

/-- The next readings of the session return these trees. -/
def Returns (s : Session) : List SpannedExpr → Prop
  | [] => True
  | e :: es => s.next.1 = .ok e ∧ s.next.2.Returns es

theorem after_next (s : Session) (k : Nat) : s.next.2.after k = s.after (k + 1) := by
  induction k with
  | zero => rfl
  | succ k ih => rw [after, ih, ← after]

/-- A successful reading of a session that never ran out of nesting takes the longest expression at its place. -/
theorem isLongest_next {s : Session} (hd : s.depth = 0) (h : s.next.1 = .ok e) :
    s.next.2.depth = 0 ∧ ∃ u, s.rest = u ++ s.next.2.rest ∧ IsLongest s.limit u s.next.2.rest e := by
  rw [next_eq] at h ⊢
  rw [hd, Nat.sub_zero] at h ⊢
  cases hp : Parser.exprWithin s.limit s.limit s.rest with
  | error f =>
    rw [hp] at h
    cases h
  | ok p =>
    rw [hp] at h
    cases h
    exact ⟨rfl, isLongest_of_exprWithin hp⟩

/-- While its readings succeed, a session splits the tokens into expressions. -/
theorem splits_of_returns {s : Session} (hd : s.depth = 0) (h : s.Returns es) :
    Splits s.limit (s.after es.length).rest s.rest es := by
  induction es generalizing s with
  | nil => exact .nothing
  | cons e es ih =>
    obtain ⟨hnext, hreturns⟩ := h
    obtain ⟨hdepth, u, hrest, hlongest⟩ := isLongest_next hd hnext
    have hsplits := ih hdepth hreturns
    rw [limit_next, after_next] at hsplits
    rw [hrest, List.length_cons]
    exact .part hlongest hsplits

/-- A successful reading takes at least one token; the tokens that it takes are read as the same tree alone, and no more
of the tokens are an expression, however deep it may nest. So as long as they succeed, the readings of a session split
the tokens into expressions. -/
theorem next_longest (limit : Nat) (tokens : List SpannedToken) :
    (∀ e, (start limit tokens).next.1 = .ok e → ∃ q, (start limit tokens).next.2.rest = tokens.drop q ∧
      0 < q ∧ q ≤ tokens.length ∧ parseTokens limit (tokens.take q) = .ok e ∧
      ∀ r, q < r → r ≤ tokens.length → ∀ n x, parseTokens n (tokens.take r) ≠ .ok x) ∧
    ∀ es, (start limit tokens).Returns es →
      Splits limit ((start limit tokens).after es.length).rest tokens es := by
  refine ⟨fun e h => ?_, fun es h => splits_of_returns rfl h⟩
  obtain ⟨-, u, htokens, hlongest⟩ := isLongest_next rfl h
  have htokens : tokens = u ++ (start limit tokens).next.2.rest := htokens
  generalize (start limit tokens).next.2.rest = rest at htokens hlongest
  subst htokens
  refine ⟨u.length, (List.drop_left ..).symm, ?_, by simp, ?_, fun r hq hr n x => ?_⟩
  · exact List.length_pos_iff.mpr hlongest.nonempty
  · rw [List.take_left]
    exact hlongest.reads
  · have hrest : rest = rest.take (r - u.length) ++ rest.drop (r - u.length) := (List.take_append_drop ..).symm
    have hmore : rest.take (r - u.length) ≠ [] := by
      rw [List.length_append] at hr
      rw [← List.length_pos_iff, List.length_take]
      omega
    rw [List.take_append, List.take_of_length_le (Nat.le_of_lt hq)]
    exact hlongest.stops _ _ hrest hmore n x

/-- The tokens of `m[x] y ]`. -/
private def twoExpressions : List SpannedToken :=
  [(.name "m", ⟨0, 1⟩), (.symbol .openBracket, ⟨1, 2⟩), (.name "x", ⟨2, 3⟩), (.symbol .closeBracket, ⟨3, 4⟩),
    (.name "y", ⟨5, 6⟩), (.symbol .closeBracket, ⟨7, 8⟩)]

/-- The first reading takes the index, not its base alone, and the second one the name behind it. -/
theorem next_longest_twice :
    let index : SpannedExpr := .index ⟨0, 4⟩ (.name ⟨0, 1⟩ "m") (.name ⟨2, 3⟩ "x")
    let name : SpannedExpr := .name ⟨5, 6⟩ "y"
    (start 2 twoExpressions).Returns [index, name] ∧
    Splits 2 [(.symbol .closeBracket, ⟨7, 8⟩)] twoExpressions [index, name] ∧
    ∃ q, (start 2 twoExpressions).next.2.rest = twoExpressions.drop q ∧
      0 < q ∧ q ≤ twoExpressions.length ∧ parseTokens 2 (twoExpressions.take q) = .ok index ∧
      ∀ r, q < r → r ≤ twoExpressions.length → ∀ n x, parseTokens n (twoExpressions.take r) ≠ .ok x := by
  intro index name
  let afterIndex : Session := ⟨twoExpressions, twoExpressions.drop 4, 0, 2⟩
  let afterName : Session := ⟨twoExpressions, twoExpressions.drop 5, 0, 2⟩
  have hindex : (start 2 twoExpressions).next = (.ok index, afterIndex) := by
    rw [next_eq]
    cbv
  have hname : afterIndex.next = (.ok name, afterName) := by
    rw [next_eq]
    cbv
  have hrest : (start 2 twoExpressions).after 2 = afterName := by rw [after, after, after, hindex, hname]
  have hreturns : (start 2 twoExpressions).Returns [index, name] := by
    rw [Returns, Returns, hindex, hname]
    exact ⟨rfl, rfl, trivial⟩
  obtain ⟨hfirst, hsplits⟩ := next_longest 2 twoExpressions
  have hsplits := hsplits [index, name] hreturns
  have hlength : [index, name].length = 2 := rfl
  rw [hlength, hrest] at hsplits
  exact ⟨hreturns, hsplits, hfirst index (congrArg Prod.fst hindex)⟩

end Session

end ExprLang
