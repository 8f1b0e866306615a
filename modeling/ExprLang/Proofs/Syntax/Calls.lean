import ExprLang.Proofs.Eval.Notes
import ExprLang.Proofs.Syntax.Depth

/-!
# Method calls

`(R).f(A, …)` and `f(R, A, …)` are one call. Each of `R`, `A`, … stands one level of nesting below the whole in both, so
both are read just where all of these are read with one level less, and then as the same tree (`parseTokens_calls`). For
the converse the reading is followed from its first token on: what it takes for `R` is `R`, since an expression is read
the same whatever is behind it and whatever its nesting is bounded by (`phrase_of_exprWithin`).
-/

namespace ExprLang

open Grammar

/-- The tokens of a method call on an expression in parentheses. -/
def methodCall (R : List Token) (f : String) (As : List (List Token)) : List Token :=
  .symbol .openParen :: (R ++ .symbol .closeParen :: .symbol .dot :: .name f :: .symbol .openParen ::
    ([.symbol .comma].intercalate As ++ [.symbol .closeParen]))

/-- The tokens of a call. -/
def bareCall (f : String) (As : List (List Token)) : List Token :=
  .name f :: .symbol .openParen :: ([.symbol .comma].intercalate As ++ [.symbol .closeParen])

/-- The tokens are read as an expression under some bound on the nesting. -/
def Parses (s : List SpannedToken) : Prop := ∃ limit e, parseTokens limit s = .ok e

/-- The tokens spell an expression, however deep it nests. -/
def IsExpression (T : List Token) : Prop := ∃ n e, Expression n T e

variable {limit n : Nat} {T Z : List Token} {Ts : List (List Token)} {s : List SpannedToken}

theorem intercalate_comma (T : List Token) (Ts : List (List Token)) :
    [.symbol .comma].intercalate (T :: Ts) = T ++ Ts.flatMap fun S => .symbol .comma :: S := by
  induction Ts generalizing T with
  | nil => simp
  | cons S Ts ih =>
    rw [List.intercalate_cons_cons, ih, List.flatMap_cons, List.append_assoc, List.cons_append, List.nil_append,
      List.cons_append]

theorem enclosed_intercalate {β : Type} {item : Phrase β} {xs : List β} (h : List.Forall₂ item Ts xs) :
    Enclosed item false ([.symbol .comma].intercalate Ts) xs := by
  cases h with
  | nil => exact .nothing
  | cons hx hmore =>
    rw [intercalate_comma]
    exact .series hx (more_of_forall₂ hmore)

/-! ### Both calls are expressions -/

theorem expression_methodCall {R : List Token} {As : List (List Token)} {r : Tree} {as : List Tree}
    (hR : Expression n R r) (hAs : List.Forall₂ (Expression n) As as) (f : String) :
    Expression (n + 1) (methodCall R f As) (.call () (.name () f) (r :: as)) := by
  have h := Suffixed.method (f := f) (.primary (.group hR)) (enclosed_intercalate hAs)
  simpa [methodCall] using expression_of_suffixed h

theorem expression_bareCall {as : List Tree} (hTs : List.Forall₂ (Expression n) Ts as) (f : String) :
    Expression (n + 1) (bareCall f Ts) (.call () (.name () f) as) :=
  expression_of_suffixed (.call (.primary (.name f)) (enclosed_intercalate hTs))

/-! ### Readings followed from their first token -/

namespace Parser

/-- What is read in front of tokens that do not go on with an expression is the expression in front of them. -/
theorem phrase_of_exprWithin {p : Parsed SpannedExpr s.length} (h : exprWithin limit n s = .ok p)
    (hs : kinds s = T ++ Z) (hT : IsExpression T) (hZ : Settled 7 Z) :
    Expression n T p.value.erase ∧ kinds p.rest = Z := by
  obtain ⟨m, t, ht⟩ := hT
  -- with enough nesting the expression is read to its end, and so it is with less
  obtain ⟨q, hq, hrest, -⟩ := (reads_exprWithin limit (max m n)).complete s T Z t hs
    (expression_within (Nat.le_max_left m n) _ _ (Nat.le_refl _) ht) hZ
  have hsame : exprWithin limit (max m n) s = exprWithin limit n s := by
    refine (exprWithin_deepens limit (Nat.le_max_right m n) s).eq fun f hf => ?_
    rw [h] at hf
    cases hf
  rw [hsame, h] at hq
  obtain rfl := Except.ok.inj hq
  obtain ⟨S, hS, he⟩ := (reads_exprWithin limit n).sound s p h
  rw [hrest, hs] at hS
  obtain rfl := List.append_cancel_right hS
  exact ⟨he, hrest⟩

theorem settled_items (Ts : List (List Token)) (Z : List Token) :
    Settled 7 ((Ts.flatMap fun T => .symbol .comma :: T) ++ .symbol .closeParen :: Z) := by
  cases Ts with
  | nil => simp [Symbol.reach]
  | cons T Ts => simp [Symbol.reach]

/-- The items of a series that was read are read with the nesting of its reader. -/
theorem expressions_of_moreItems {p : Parsed (List SpannedExpr × Span) s.length}
    (h : moreItems (exprWithin limit n) .closeParen false s = .ok p)
    (hs : kinds s = (Ts.flatMap fun T => .symbol .comma :: T) ++ .symbol .closeParen :: Z)
    (hTs : ∀ T ∈ Ts, IsExpression T) : ∃ es, List.Forall₂ (Expression n) Ts es := by
  induction Ts generalizing s with
  | nil => exact ⟨[], .nil⟩
  | cons T Ts ih =>
    obtain ⟨hT, hTs⟩ := List.forall_mem_cons.mp hTs
    rw [List.flatMap_cons, List.cons_append, List.cons_append, List.append_assoc] at hs
    obtain ⟨span, rest, rfl, hrest⟩ := kinds_eq_cons hs
    rw [moreItems, Bool.false_and, if_neg Bool.false_ne_true] at h
    obtain ⟨x, hx, h⟩ := bind_eq_ok.1 h
    obtain ⟨more, hmore, -⟩ := bind_eq_ok.1 h
    obtain ⟨hphrase, hbehind⟩ := phrase_of_exprWithin hx hrest hT (settled_items Ts Z)
    obtain ⟨es, hes⟩ := ih hmore hbehind hTs
    exact ⟨_ :: es, .cons hphrase hes⟩

theorem expressions_of_series {p : Parsed (List SpannedExpr × Span) s.length}
    (h : series (exprWithin limit n) .closeParen false s = .ok p)
    (hs : kinds s = [.symbol .comma].intercalate Ts ++ .symbol .closeParen :: Z) (hTs : ∀ T ∈ Ts, IsExpression T) :
    ∃ es, List.Forall₂ (Expression n) Ts es := by
  cases Ts with
  | nil => exact ⟨[], .nil⟩
  | cons T Ts =>
    obtain ⟨hT, hTs⟩ := List.forall_mem_cons.mp hTs
    rw [intercalate_comma, List.append_assoc] at hs
    have hstart : startsWith .closeParen s = false := by
      obtain ⟨m, t, ht⟩ := hT
      exact not_startsWith (begins_expression m) rfl ht hs
    rw [series, hstart, if_neg Bool.false_ne_true] at h
    obtain ⟨x, hx, h⟩ := bind_eq_ok.1 h
    obtain ⟨more, hmore, -⟩ := bind_eq_ok.1 h
    obtain ⟨hphrase, hbehind⟩ := phrase_of_exprWithin hx hs hT (settled_items Ts Z)
    obtain ⟨es, hes⟩ := expressions_of_moreItems hmore hbehind hTs
    exact ⟨_ :: es, .cons hphrase hes⟩

/-- An expression that begins with no sign begins with an operand. -/
theorem operand_of_exprWithin {p : Parsed SpannedExpr s.length} (h : exprWithin limit (n + 1) s = .ok p)
    (hsign : leadingSign? s = none) : ∃ q, operand (exprWithin limit n) s = .ok q := by
  obtain ⟨_, hor, -⟩ := bind_eq_ok.1 h
  obtain ⟨_, hand, -⟩ := bind_eq_ok.1 hor
  obtain ⟨_, hcomparison, -⟩ := bind_eq_ok.1 hand
  obtain ⟨_, hadditive, -⟩ := bind_eq_ok.1 hcomparison
  obtain ⟨_, hmultiplicative, -⟩ := bind_eq_ok.1 hadditive
  obtain ⟨q, hsigned, -⟩ := bind_eq_ok.1 hmultiplicative
  cases s with
  | nil => exact ⟨q, hsigned⟩
  | cons t rest =>
    have hnone : leadingSign? [t] = none := by
      obtain ⟨t, span⟩ := t
      cases t <;> exact hsign
    rw [signed, hnone] at hsigned
    exact ⟨q, hsigned⟩

variable {R : List Token} {f : String} {As : List (List Token)}

theorem expressions_of_call {e : SpannedExpr} {p : Parsed SpannedExpr (s.length + 1)}
    (h : suffixes (exprWithin limit n) e s = .ok p)
    (hs : kinds s = .symbol .openParen :: ([.symbol .comma].intercalate Ts ++ .symbol .closeParen :: Z))
    (hTs : ∀ T ∈ Ts, IsExpression T) : ∃ es, List.Forall₂ (Expression n) Ts es := by
  obtain ⟨span, rest, rfl, hrest⟩ := kinds_eq_cons hs
  rw [suffixes] at h
  obtain ⟨args, hargs, -⟩ := bind_eq_ok.1 h
  exact expressions_of_series hargs hrest hTs

theorem expressions_of_method {e : SpannedExpr} {p : Parsed SpannedExpr (s.length + 1)}
    (h : suffixes (exprWithin limit n) e s = .ok p)
    (hs : kinds s = .symbol .dot :: .name f :: .symbol .openParen ::
      ([.symbol .comma].intercalate Ts ++ .symbol .closeParen :: Z))
    (hTs : ∀ T ∈ Ts, IsExpression T) : ∃ es, List.Forall₂ (Expression n) Ts es := by
  obtain ⟨_, named, rfl, hnamed⟩ := kinds_eq_cons hs
  obtain ⟨_, opened, rfl, hopened⟩ := kinds_eq_cons hnamed
  obtain ⟨_, rest, rfl, hrest⟩ := kinds_eq_cons hopened
  rw [suffixes] at h
  obtain ⟨args, hargs, -⟩ := bind_eq_ok.1 h
  exact expressions_of_series hargs hrest hTs

/-- What is read of a method call is read with one level of nesting less. -/
theorem expressions_of_methodCall {p : Parsed SpannedExpr s.length} (h : exprWithin limit (n + 1) s = .ok p)
    (hs : kinds s = methodCall R f As) (hR : IsExpression R) (hAs : ∀ A ∈ As, IsExpression A) :
    ∃ es, List.Forall₂ (Expression n) (R :: As) es := by
  obtain ⟨span, rest, rfl, hrest⟩ := kinds_eq_cons hs
  obtain ⟨q, hq⟩ := operand_of_exprWithin h rfl
  obtain ⟨e, he, hq⟩ := bind_eq_ok.1 hq
  obtain ⟨more, hmore, -⟩ := bind_eq_ok.1 hq
  obtain ⟨x, hx, he⟩ := bind_eq_ok.1 he
  obtain ⟨close, hclose, he⟩ := bind_eq_ok.1 he
  cases he
  obtain ⟨hphrase, hbehind⟩ := phrase_of_exprWithin hx hrest hR (by simp [Symbol.reach])
  rw [expect_sound hclose, List.cons.injEq] at hbehind
  obtain ⟨es, hes⟩ := expressions_of_method hmore hbehind.2 hAs
  exact ⟨_ :: es, .cons hphrase hes⟩

theorem expressions_of_bareCall {p : Parsed SpannedExpr s.length} (h : exprWithin limit (n + 1) s = .ok p)
    (hs : kinds s = bareCall f Ts) (hTs : ∀ T ∈ Ts, IsExpression T) : ∃ es, List.Forall₂ (Expression n) Ts es := by
  obtain ⟨span, rest, rfl, hrest⟩ := kinds_eq_cons hs
  obtain ⟨q, hq⟩ := operand_of_exprWithin h rfl
  obtain ⟨e, he, hq⟩ := bind_eq_ok.1 hq
  obtain ⟨more, hmore, -⟩ := bind_eq_ok.1 hq
  cases he
  exact expressions_of_call hmore hrest hTs

end Parser

/-! ### Calls of both forms -/

/-- Expressions nest within a bound in common. -/
theorem exists_expressions (hTs : ∀ T ∈ Ts, IsExpression T) : ∃ n es, List.Forall₂ (Expression n) Ts es := by
  induction Ts with
  | nil => exact ⟨0, [], .nil⟩
  | cons T Ts ih =>
    obtain ⟨⟨m, e, he⟩, hTs⟩ := List.forall_mem_cons.mp hTs
    obtain ⟨n, es, hes⟩ := ih hTs
    refine ⟨max m n, e :: es, .cons ?_ (hes.imp fun S x hx => ?_)⟩
    · exact expression_within (Nat.le_max_left m n) _ _ (Nat.le_refl _) he
    · exact expression_within (Nat.le_max_right m n) _ _ (Nat.le_refl _) hx

/-- An expression that is not read nests too deep. -/
theorem isTooDeep_of_isExpression {d : ParseError} (hs : IsExpression (kinds s)) (h : parseTokens limit s = .error d) :
    d.isTooDeep = true := by
  obtain ⟨m, e, he⟩ := hs
  obtain ⟨x, hx, -⟩ := parseTokens_eq_ok_iff.2
    (expression_within (Nat.le_max_left m limit) _ _ (Nat.le_refl (kinds s).length) he)
  by_contra hdeep
  have hsame : parseTokens (max m limit) s = parseTokens limit s := by
    refine parseTokens_eq_of_le (Nat.le_max_right m limit) fun d' hd' => ?_
    rw [h] at hd'
    obtain rfl := Except.error.inj hd'
    exact Bool.eq_false_iff.mpr hdeep
  rw [hsame, h] at hx
  cases hx

/-- What is read at all is read with at least one level of nesting. -/
theorem exprWithin_of_parseTokens {d : SpannedExpr} (h : parseTokens limit s = .ok d) :
    ∃ n p, limit = n + 1 ∧ Parser.exprWithin limit (n + 1) s = .ok p := by
  cases limit with
  | zero => cases h
  | succ n =>
    rw [parseTokens_eq] at h
    split at h
    · exact ⟨n, _, rfl, ‹_›⟩
    · cases h

theorem parses_iff : Parses s ↔ IsExpression (kinds s) := by
  constructor
  · rintro ⟨limit, e, he⟩
    exact ⟨limit, e.erase, parseTokens_eq_ok_iff.1 ⟨e, he, rfl⟩⟩
  · rintro ⟨limit, x, hx⟩
    obtain ⟨e, he, -⟩ := parseTokens_eq_ok_iff.2 hx
    exact ⟨limit, e, he⟩

/-- A method call and the call with the receiver in front of the other arguments are read alike: as the same tree, if
the receiver and the arguments are read with one level of nesting less, and otherwise the nesting runs out in both. -/
theorem parseTokens_calls (limit : Nat) (f : String) (R : List SpannedToken) (As : List (List SpannedToken))
    (s t : List SpannedToken) (hR : Parses R) (hAs : ∀ A ∈ As, Parses A)
    (hs : kinds s = methodCall (kinds R) f (As.map kinds)) (ht : kinds t = bareCall f ((R :: As).map kinds)) :
    (∃ n operands d e, limit = n + 1 ∧
      List.Forall₂ (fun A x => ∃ a, parseTokens n A = .ok a ∧ a.erase = x) (R :: As) operands ∧
      parseTokens limit s = .ok d ∧ parseTokens limit t = .ok e ∧ d.erase = .call () (.name () f) operands ∧
      d.erase = e.erase ∧ ∀ ctx : Context, d.eval ctx = e.eval ctx) ∨
    ∃ d e, parseTokens limit s = .error d ∧ parseTokens limit t = .error e ∧ d.isTooDeep = true ∧
      e.isTooDeep = true := by
  have hall : ∀ T ∈ (R :: As).map kinds, IsExpression T := by
    rw [List.forall_mem_map]
    exact List.forall_mem_cons.mpr ⟨parses_iff.1 hR, fun A hA => parses_iff.1 (hAs A hA)⟩
  obtain ⟨hreceiver, hrest⟩ := List.forall_mem_cons.mp hall
  by_cases hnested : ∃ n es, limit = n + 1 ∧ List.Forall₂ (Expression n) ((R :: As).map kinds) es
  · left
    obtain ⟨n, es, rfl, hes⟩ := hnested
    obtain ⟨r, as, hr, has, rfl⟩ := List.forall₂_cons_left_iff.mp hes
    obtain ⟨d, hd, hdTree⟩ := parseTokens_eq_ok_iff.2 (hs ▸ expression_methodCall hr has f)
    obtain ⟨e, he, heTree⟩ := parseTokens_eq_ok_iff.2 (ht ▸ expression_bareCall hes f)
    have herase : d.erase = e.erase := hdTree.trans heTree.symm
    refine ⟨n, r :: as, d, e, rfl, ?_, hd, he, hdTree, herase, fun ctx => Expr.eval_of_erase ctx herase⟩
    exact (List.forall₂_map_left_iff.mp hes).imp fun A x hx => parseTokens_eq_ok_iff.2 hx
  · right
    obtain ⟨m, es, hes⟩ := exists_expressions hall
    obtain ⟨r, as, hr, has, rfl⟩ := List.forall₂_cons_left_iff.mp hes
    have hmethod : IsExpression (kinds s) := ⟨m + 1, _, hs ▸ expression_methodCall hr has f⟩
    have hbare : IsExpression (kinds t) := ⟨m + 1, _, ht ▸ expression_bareCall hes f⟩
    cases hd : parseTokens limit s with
    | ok d =>
      obtain ⟨n, p, rfl, hp⟩ := exprWithin_of_parseTokens hd
      obtain ⟨es, hes⟩ := Parser.expressions_of_methodCall hp hs hreceiver hrest
      exact absurd ⟨n, es, rfl, hes⟩ hnested
    | error d =>
      cases he : parseTokens limit t with
      | ok e =>
        obtain ⟨n, p, rfl, hp⟩ := exprWithin_of_parseTokens he
        obtain ⟨es, hes⟩ := Parser.expressions_of_bareCall hp ht hall
        exact absurd ⟨n, es, rfl, hes⟩ hnested
      | error e => exact ⟨d, e, rfl, rfl, isTooDeep_of_isExpression hmethod hd, isTooDeep_of_isExpression hbare he⟩

/-- `(x).f(1)` and `f(x, 1)` are read as one tree when expressions may nest 2 deep, and are both too deep when not. -/
theorem parseTokens_calls_of_name :
    let place (T : List Token) : List SpannedToken := T.map fun t => (t, ⟨0, 0⟩)
    let x : List Token := [.name "x"]
    let one : List Token := [.literal (.int 1)]
    let s := place (methodCall x "f" [one])
    let t := place (bareCall "f" [x, one])
    Parses (place x) ∧ Parses (place one) ∧ kinds s = methodCall (kinds (place x)) "f" [kinds (place one)] ∧
    kinds t = bareCall "f" [kinds (place x), kinds (place one)] ∧
    (∃ d e, parseTokens 2 s = .ok d ∧ parseTokens 2 t = .ok e ∧ d.erase = e.erase) ∧
    ∃ d e, parseTokens 1 s = .error d ∧ parseTokens 1 t = .error e ∧ d.isTooDeep = true ∧ e.isTooDeep = true := by
  intro place x one s t
  have hx : Parses (place x) := parses_iff.2 ⟨1, _, expression_of_suffixed (.primary (.name "x"))⟩
  have hone : Parses (place one) := parses_iff.2 ⟨1, _, expression_of_suffixed (.primary (.literal (.int 1)))⟩
  have hs : kinds s = methodCall (kinds (place x)) "f" [kinds (place one)] := by rfl
  have ht : kinds t = bareCall "f" [kinds (place x), kinds (place one)] := by rfl
  have hcalls (limit : Nat) :=
    parseTokens_calls limit "f" (place x) [place one] s t hx (List.forall_mem_singleton.mpr hone) hs ht
  have hshallow : (parseTokens 2 s).isOk = true := by decide +kernel
  have hdeep : (parseTokens 1 s).isOk = false := by decide +kernel
  refine ⟨hx, hone, hs, ht, ?_, ?_⟩
  · rcases hcalls 2 with ⟨-, -, d, e, -, -, hd, he, -, herase, -⟩ | ⟨d, e, hd, -⟩
    · exact ⟨d, e, hd, he, herase⟩
    · rw [hd] at hshallow
      cases hshallow
  · rcases hcalls 1 with ⟨-, -, d, e, -, -, hd, -⟩ | h
    · rw [hd] at hdeep
      cases hdeep
    · exact h

end ExprLang
