import ExprLang.Proofs.Syntax.Session

/-!
# The bound on nesting

A bound on nesting only cuts readings off: with a greater bound a reading is the same unless it ran out of nesting
(`parseTokens_eq_of_le`). Each level of nesting takes a token, so a reading that runs out of it has taken as many tokens
as there were levels (`Parser.add_length_rest_le`), and a bound above the number of all tokens is never met.
-/

namespace ExprLang

variable {limit limit' n : Nat} {s tokens : List SpannedToken}

/-- Where `n` levels of nesting have run out, at least `n` tokens have been taken. -/
theorem Parser.add_length_rest_le {f : Failure} (h : exprWithin limit n s = .error f) (hf : f.fault.isTooDeep = true) :
    n + f.rest.length ≤ s.length := by
  induction n generalizing f with
  | zero =>
    obtain rfl := Except.error.inj h
    simp
  | succ n ih =>
    have hd := exprWithin_deepens_of_lt limit limit (Nat.lt_succ_self n) s
    rw [h] at hd
    -- with one level less the nesting runs out before this place
    generalize hless : exprWithin limit n s = x at hd
    cases hd with
    | fail _ hfail =>
      rw [hf] at hfail
      cases hfail
    | stay _ hsame => exact hsame.elim
    | further g _ hg _ hleft =>
      have hlt : f.rest.length < g.rest.length := hleft _ (by simp [left?, hf])
      have := ih hless hg
      omega

/-- Nesting that is deeper than there are tokens does not run out. -/
theorem Parser.isTooDeep_of_length_lt {f : Failure} (hn : s.length < n) (h : exprWithin limit n s = .error f) :
    f.fault.isTooDeep = false := by
  rw [Bool.eq_false_iff]
  intro hf
  have := add_length_rest_le h hf
  omega

/-- The error of a reading that failed is that of its fault. -/
theorem parseTokens_of_failure {f : Failure} (h : Parser.exprWithin limit limit tokens = .error f) :
    parseTokens limit tokens = .error (f.toError (endOfInput tokens)) := by
  rw [parseTokens_eq, h]

/-- A reading that does not run out of nesting is the same under a greater bound. -/
theorem parseTokens_eq_of_le (h : limit ≤ limit')
    (hdeep : ∀ e, parseTokens limit tokens = .error e → e.isTooDeep = false) :
    parseTokens limit' tokens = parseTokens limit tokens := by
  rcases Nat.lt_or_eq_of_le h with hlt | rfl
  · have hfault (f : Failure) (hf : Parser.exprWithin limit limit tokens = .error f) : f.fault.isTooDeep = false := by
      rw [← f.isTooDeep_toError (endOfInput tokens)]
      exact hdeep _ (parseTokens_of_failure hf)
    have hsame := (Parser.exprWithin_deepens_of_lt limit limit' hlt tokens).eq hfault
    rw [parseTokens_eq, parseTokens_eq, hsame]
  · rfl

/-- A bound above the number of tokens is not met. -/
theorem isTooDeep_of_length_lt {e : ParseError} (hlimit : tokens.length < limit)
    (h : parseTokens limit tokens = .error e) : e.isTooDeep = false := by
  rw [parseTokens_eq] at h
  split at h
  · split at h
    · cases h
    · cases h
      exact Failure.isTooDeep_toError _ _
  · rename_i f hf
    cases h
    rw [Failure.isTooDeep_toError]
    exact Parser.isTooDeep_of_length_lt hlimit hf

/-- The bound on nesting only ever cuts off. Under a greater bound a tree stays the same tree, and an error that is no
lack of nesting the same error; and no bound above the number of tokens makes an error of this kind. -/
theorem parseTokens_of_limit_le (limit limit' : Nat) (tokens : List SpannedToken) (h : limit ≤ limit') :
    (∀ e, parseTokens limit tokens = .ok e → parseTokens limit' tokens = .ok e) ∧
    (∀ e, parseTokens limit tokens = .error e → e.isTooDeep = false → parseTokens limit' tokens = .error e) ∧
    ∀ enough ≥ tokens.length + 1, ∀ e, parseTokens enough tokens = .error e → e.isTooDeep = false := by
  refine ⟨fun e he => ?_, fun e he hdeep => ?_, fun enough henough e he => isTooDeep_of_length_lt henough he⟩
  · rw [← he]
    refine parseTokens_eq_of_le h fun e' he' => ?_
    rw [he] at he'
    cases he'
  · rw [← he]
    refine parseTokens_eq_of_le h fun e' he' => ?_
    rw [he] at he'
    cases he'
    exact hdeep

/-- As many opened parentheses as levels of nesting, and what stands in them. -/
private def opened (depth : Nat) (behind : List Token) : List SpannedToken :=
  (List.replicate depth (Token.symbol .openParen) ++ behind).map fun t => (t, ⟨0, 0⟩)

/-- Whether there is an error, and whether it is a lack of nesting. -/
private def errorTooDeep? : Except ParseError SpannedExpr → Option Bool
  | .ok _ => none
  | .error e => some e.isTooDeep

/-- A number in two parentheses is read under bounds of 3 and 5, and misses its second parenthesis under both when that
is left out. Under a bound of 2 the nesting runs out. -/
theorem parseTokens_parentheses :
    let closed := opened 2 [.literal (.int 1), .symbol .closeParen, .symbol .closeParen]
    let unclosed := opened 2 [.literal (.int 1), .symbol .closeParen]
    3 ≤ 5 ∧ (∃ e, parseTokens 3 closed = .ok e ∧ parseTokens 5 closed = .ok e) ∧
    (∃ e, parseTokens 3 unclosed = .error e ∧ e.isTooDeep = false ∧ parseTokens 5 unclosed = .error e) ∧
    (∃ e, parseTokens 2 closed = .error e ∧ e.isTooDeep = true) ∧
    ∀ e, parseTokens 6 closed = .error e → e.isTooDeep = false := by
  intro closed unclosed
  have hle : 3 ≤ 5 := by decide
  obtain ⟨htree, -, henough⟩ := parseTokens_of_limit_le 3 5 closed hle
  obtain ⟨-, herror, -⟩ := parseTokens_of_limit_le 3 5 unclosed hle
  refine ⟨hle, ?_, ?_, ?_, henough 6 (by decide)⟩
  · have hrun : errorTooDeep? (parseTokens 3 closed) = none := by decide +kernel
    cases h : parseTokens 3 closed with
    | ok e => exact ⟨e, rfl, htree e h⟩
    | error e =>
      rw [h] at hrun
      cases hrun
  · have hrun : errorTooDeep? (parseTokens 3 unclosed) = some false := by decide +kernel
    cases h : parseTokens 3 unclosed with
    | ok e =>
      rw [h] at hrun
      cases hrun
    | error e =>
      rw [h] at hrun
      have hdeep : e.isTooDeep = false := Option.some.inj hrun
      exact ⟨e, rfl, hdeep, herror e h hdeep⟩
  · have hrun : errorTooDeep? (parseTokens 2 closed) = some true := by decide +kernel
    cases h : parseTokens 2 closed with
    | ok e =>
      rw [h] at hrun
      cases hrun
    | error e =>
      rw [h] at hrun
      exact ⟨e, rfl, Option.some.inj hrun⟩

end ExprLang
