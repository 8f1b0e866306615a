import ExprLang.Proofs.Syntax.Reading

/-!
# Places have no part in reading

Tokens that differ in their places only are read alike: to the same tree up to places, or to the same fault at the same
token (`Alike`). The readers are taken one after the other, each from those that it is built on; `placeFree_exprWithin`
is the induction over the nesting, and `parseTokens_of_kinds` says so of whole inputs.
-/

namespace ExprLang

namespace Parser

variable {β γ δ ε : Type} {b b' c c' : Nat}

/-- Two readings that differ in places only: they give the same value, seen through `view`, or the same fault, with the
same tokens behind. -/
inductive Alike (view : β → γ) : (x : Except Failure (Parsed β b)) → (y : Except Failure (Parsed β b')) → Prop
  | ok {p q} : view p.value = view q.value → kinds p.rest = kinds q.rest → Alike view (.ok p) (.ok q)
  | error {f g} : f.fault = g.fault → kinds f.rest = kinds g.rest → Alike view (.error f) (.error g)

theorem Alike.bind {view : β → γ} {view' : δ → ε} {x : Except Failure (Parsed β b)}
    {y : Except Failure (Parsed β b')} {f : Parsed β b → Except Failure (Parsed δ c)}
    {g : Parsed β b' → Except Failure (Parsed δ c')} (h : Alike view x y)
    (hf : ∀ p q, view p.value = view q.value → kinds p.rest = kinds q.rest → Alike view' (f p) (g q)) :
    Alike view' (x >>= f) (y >>= g) := by
  cases h with
  | ok hv hr => exact hf _ _ hv hr
  | error hf hr => exact .error hf hr

/-- The reader reads tokens that differ in their places only alike. -/
def PlaceFree (view : β → γ) (reader : Reader β) : Prop :=
  ∀ s t, kinds s = kinds t → Alike view (reader s) (reader t)

private theorem exists_cons_of_kinds {x : Token} {span : Span} {s t : List SpannedToken}
    (h : kinds ((x, span) :: s) = kinds t) : ∃ span' t', t = (x, span') :: t' ∧ kinds s = kinds t' := by
  obtain ⟨span', t', ht, hs⟩ := kinds_eq_cons h.symm
  exact ⟨span', t', ht, hs.symm⟩

/-! ### Tests of tokens -/

section Tests

variable {s t : List SpannedToken}

theorem startsWith_of_kinds (y : Symbol) (h : kinds s = kinds t) : startsWith y s = startsWith y t := by
  rw [Bool.eq_iff_iff, startsWith_iff, startsWith_iff, h]

theorem leading_of_kinds (f : Symbol → Option BinaryOp) (h : kinds s = kinds t) : leading? f s = leading? f t := by
  cases s with
  | nil =>
    obtain rfl : t = [] := List.map_eq_nil_iff.mp h.symm
    rfl
  | cons x s =>
    obtain ⟨x, span⟩ := x
    obtain ⟨span', t, rfl, -⟩ := exists_cons_of_kinds h
    cases x <;> rfl

theorem leadingSign_of_kinds (h : kinds s = kinds t) : leadingSign? s = leadingSign? t := by
  cases s with
  | nil =>
    obtain rfl : t = [] := List.map_eq_nil_iff.mp h.symm
    rfl
  | cons x s =>
    obtain ⟨x, span⟩ := x
    obtain ⟨span', t, rfl, -⟩ := exists_cons_of_kinds h
    cases x <;> rfl

/-- A run of one sign is as long in both, and the same tokens stand behind it. -/
theorem signs_of_kinds (op : UnaryOp) (h : kinds s = kinds t) :
    (s.takeWhile (isSign op)).length = (t.takeWhile (isSign op)).length ∧
      kinds (s.dropWhile (isSign op)) = kinds (t.dropWhile (isSign op)) := by
  induction s generalizing t with
  | nil =>
    obtain rfl : t = [] := List.map_eq_nil_iff.mp h.symm
    exact ⟨rfl, rfl⟩
  | cons x s ih =>
    obtain ⟨x, span⟩ := x
    obtain ⟨span', t, rfl, ht⟩ := exists_cons_of_kinds h
    obtain ⟨htake, hdrop⟩ := ih ht
    have hsame : isSign op (x, span') = isSign op (x, span) := by
      rw [isSign, isSign, leadingSign_of_kinds (s := [(x, span')]) (t := [(x, span)]) rfl]
    by_cases hsign : isSign op (x, span) = true
    · simp [hsame, hsign, htake, hdrop]
    · simp [hsame, hsign, ht]

end Tests

/-! ### Series -/

theorem placeFree_expect (y : Symbol) : PlaceFree (fun _ => ()) (expect y) := by
  intro s t h
  cases s with
  | nil =>
    obtain rfl : t = [] := List.map_eq_nil_iff.mp h.symm
    exact .error rfl rfl
  | cons x s =>
    obtain ⟨x, span⟩ := x
    obtain ⟨span', t, rfl, ht⟩ := exists_cons_of_kinds h
    cases x with
    | symbol z =>
      by_cases hz : z = y
      · simp only [expect, if_pos hz]
        exact .ok rfl ht
      · simp only [expect, if_neg hz]
        exact .error rfl h
    | _ => exact .error rfl h

section Series

variable {item : Reader β} {view : β → γ} (hi : PlaceFree view item)
include hi

/-- What is seen of a series: its items. -/
private theorem moreItems_alike (close : Symbol) (trailing : Bool) (s t : List SpannedToken) (h : kinds s = kinds t) :
    Alike (fun more : List β × Span => more.1.map view) (moreItems item close trailing s)
      (moreItems item close trailing t) := by
  fun_induction moreItems item close trailing s generalizing t with
  | case1 span rest hc =>
    obtain ⟨span', t, rfl, ht⟩ := exists_cons_of_kinds h
    rw [startsWith_of_kinds close ht] at hc
    rw [moreItems, if_pos hc]
    exact .bind (placeFree_expect close _ _ ht) fun c d _ hr => .ok rfl hr
  | case2 span rest hc ih =>
    obtain ⟨span', t, rfl, ht⟩ := exists_cons_of_kinds h
    rw [startsWith_of_kinds close ht] at hc
    rw [moreItems, if_neg hc]
    refine .bind (hi _ _ ht) fun x y hv hr => ?_
    exact .bind (ih x _ hr) fun more more' hvs hr => .ok (by simp [hv, hvs]) hr
  | case3 s hs =>
    rw [moreItems]
    · exact .bind (placeFree_expect close _ _ h) fun c d _ hr => .ok rfl hr
    · rintro span rest rfl
      obtain ⟨span', s, rfl, -⟩ := exists_cons_of_kinds h.symm
      exact hs _ _ rfl

theorem placeFree_series (close : Symbol) (trailing : Bool) :
    PlaceFree (fun items : List β × Span => items.1.map view) (series item close trailing) := by
  intro s t h
  unfold series
  rw [startsWith_of_kinds close h]
  split
  · exact .bind (placeFree_expect close _ _ h) fun c d _ hr => .ok rfl hr
  · refine .bind (hi _ _ h) fun x y hv hr => ?_
    exact .bind (moreItems_alike hi close trailing _ _ hr) fun more more' hvs hr => .ok (by simp [hv, hvs]) hr

end Series

/-! ### Operands -/

section Operands

variable {nested : Reader SpannedExpr} (hn : PlaceFree Expr.erase nested)
include hn

theorem placeFree_entry : PlaceFree (Prod.map Expr.erase Expr.erase) (entry nested) := by
  intro s t h
  refine .bind (hn _ _ h) fun key key' hk hr => ?_
  refine .bind (placeFree_expect .colon _ _ hr) fun c d _ hr => ?_
  exact .bind (hn _ _ hr) fun value value' hv hr => .ok (by simp [hk, hv]) hr

theorem placeFree_primary : PlaceFree Expr.erase (primary nested) := by
  intro s t h
  cases s with
  | nil =>
    obtain rfl : t = [] := List.map_eq_nil_iff.mp h.symm
    exact .error rfl rfl
  | cons x s =>
    obtain ⟨x, span⟩ := x
    obtain ⟨span', t, rfl, ht⟩ := exists_cons_of_kinds h
    cases x with
    | literal l => exact .ok rfl ht
    | name n => exact .ok rfl ht
    | reserved w => exact .error rfl h
    | symbol y =>
      cases y with
      | openParen =>
        refine .bind (hn _ _ ht) fun e e' he hr => ?_
        exact .bind (placeFree_expect .closeParen _ _ hr) fun c d _ hr => .ok he hr
      | openBracket =>
        refine .bind (placeFree_series hn .closeBracket true _ _ ht) fun items items' hv hr => ?_
        exact .ok (by simp [hv]) hr
      | openBrace =>
        refine .bind (placeFree_series (placeFree_entry hn) .closeBrace true _ _ ht) fun es es' hv hr => ?_
        exact .ok (by simp [hv]) hr
      | _ => exact .error rfl h

private theorem suffixes_alike (e e' : SpannedExpr) (he : e.erase = e'.erase) (s t : List SpannedToken)
    (h : kinds s = kinds t) : Alike Expr.erase (suffixes nested e s) (suffixes nested e' t) := by
  fun_induction suffixes nested e s generalizing e' t with
  | case1 e span rest ih =>
    obtain ⟨span', t, rfl, ht⟩ := exists_cons_of_kinds h
    rw [suffixes]
    refine .bind (placeFree_series hn .closeParen false _ _ ht) fun args args' hv hr => ?_
    exact .bind (ih args _ (by simp [he, hv]) _ hr) fun more more' hv hr => .ok hv hr
  | case2 e span rest ih =>
    obtain ⟨span', t, rfl, ht⟩ := exists_cons_of_kinds h
    rw [suffixes]
    refine .bind (hn _ _ ht) fun i i' hv hr => ?_
    refine .bind (placeFree_expect .closeBracket _ _ hr) fun c d _ hr => ?_
    exact .bind (ih i c _ (by simp [he, hv]) _ hr) fun more more' hv hr => .ok hv hr
  | case3 e dot f span open' rest ih =>
    obtain ⟨dot', t₁, rfl, ht₁⟩ := exists_cons_of_kinds h
    obtain ⟨span', t₂, rfl, ht₂⟩ := exists_cons_of_kinds ht₁
    obtain ⟨open'', t, rfl, ht⟩ := exists_cons_of_kinds ht₂
    rw [suffixes]
    refine .bind (placeFree_series hn .closeParen false _ _ ht) fun args args' hv hr => ?_
    exact .bind (ih args _ (by simp [he, hv]) _ hr) fun more more' hv hr => .ok hv hr
  | case4 e dot f span rest hopen =>
    obtain ⟨dot', t₁, rfl, ht₁⟩ := exists_cons_of_kinds h
    obtain ⟨span', t, rfl, ht⟩ := exists_cons_of_kinds ht₁
    rw [suffixes]
    · exact .error rfl ht
    · rintro open' t rfl
      obtain ⟨open'', rest, rfl, -⟩ := exists_cons_of_kinds ht.symm
      exact hopen _ _ rfl
  | case5 e dot rest hname hname' =>
    obtain ⟨dot', t, rfl, ht⟩ := exists_cons_of_kinds h
    rw [suffixes]
    · exact .error rfl ht
    · rintro f span open' t rfl
      obtain ⟨span', rest, rfl, -⟩ := exists_cons_of_kinds ht.symm
      exact hname' _ _ _ rfl
    · rintro f span t rfl
      obtain ⟨span', rest, rfl, -⟩ := exists_cons_of_kinds ht.symm
      exact hname' _ _ _ rfl
  | case6 e s h₁ h₂ h₃ h₄ h₅ =>
    have hne {y : Symbol} (hy : ∀ span rest, s = (.symbol y, span) :: rest → False) (span : Span)
        (rest : List SpannedToken) : t ≠ (.symbol y, span) :: rest := by
      rintro rfl
      obtain ⟨span', s, rfl, -⟩ := exists_cons_of_kinds h.symm
      exact hy _ _ rfl
    rw [suffixes]
    · exact .ok he h
    · exact hne h₁
    · exact hne h₂
    · exact fun span f span' open' rest => hne h₅ span _
    · exact fun span f span' rest => hne h₅ span _
    · exact hne h₅

theorem placeFree_operand : PlaceFree Expr.erase (operand nested) := by
  intro s t h
  refine .bind (placeFree_primary hn _ _ h) fun e e' he hr => ?_
  exact .bind (suffixes_alike hn _ _ he _ _ hr) fun more more' hv hr => .ok hv hr

theorem placeFree_signed : PlaceFree Expr.erase (signed nested) := by
  intro s t h
  cases s with
  | nil =>
    obtain rfl : t = [] := List.map_eq_nil_iff.mp h.symm
    exact placeFree_operand hn [] [] rfl
  | cons x s =>
    obtain ⟨x, span⟩ := x
    obtain ⟨span', t, rfl, ht⟩ := exists_cons_of_kinds h
    have hsame : leadingSign? [(x, span')] = leadingSign? [(x, span)] := leadingSign_of_kinds rfl
    unfold signed
    dsimp only
    rw [hsame]
    split
    · exact placeFree_operand hn _ _ h
    · rename_i op _
      obtain ⟨htake, hdrop⟩ := signs_of_kinds op ht
      rw [leadingSign_of_kinds hdrop, htake]
      split
      · exact .error rfl hdrop
      · exact .bind (placeFree_operand hn _ _ hdrop) fun e e' he hr => .ok (by simp [he]) hr

end Operands

/-! ### Operators between operands -/

private theorem erase_chained (level : Level) {first first' : SpannedExpr} {more more' : List (BinaryOp × SpannedExpr)}
    (hfirst : first.erase = first'.erase)
    (hmore : more.map (Prod.map id Expr.erase) = more'.map (Prod.map id Expr.erase)) :
    (chained level first more).erase = (chained level first' more').erase := by
  cases more with
  | nil =>
    obtain rfl : more' = [] := List.map_eq_nil_iff.mp hmore.symm
    exact hfirst
  | cons p more =>
    obtain ⟨p', more', rfl, hp, hmore⟩ := List.map_eq_cons_iff.mp hmore.symm
    obtain ⟨hop, hsecond⟩ := Prod.ext_iff.mp hp
    dsimp only [Prod.map, id] at hop hsecond
    simp [chained, hfirst, hop, hsecond, hmore]

section Chains

variable {next : Reader SpannedExpr} (hn : PlaceFree Expr.erase next)
include hn

private theorem following_alike (level : Level) (s t : List SpannedToken) (h : kinds s = kinds t) :
    Alike (List.map (Prod.map id Expr.erase)) (following next level s) (following next level t) := by
  fun_induction following next level s generalizing t with
  | case1 =>
    obtain rfl : t = [] := List.map_eq_nil_iff.mp h.symm
    rw [following]
    exact .ok rfl rfl
  | case2 x rest hop =>
    obtain ⟨x, span⟩ := x
    obtain ⟨span', t, rfl, ht⟩ := exists_cons_of_kinds h
    have hsame : leading? (operator? level) [(x, span')] = leading? (operator? level) [(x, span)] :=
      leading_of_kinds _ rfl
    rw [following, hsame, hop]
    exact .ok rfl h
  | case3 x rest op hop ih =>
    obtain ⟨x, span⟩ := x
    obtain ⟨span', t, rfl, ht⟩ := exists_cons_of_kinds h
    have hsame : leading? (operator? level) [(x, span')] = leading? (operator? level) [(x, span)] :=
      leading_of_kinds _ rfl
    rw [following, hsame, hop]
    refine .bind (hn _ _ ht) fun e e' he hr => ?_
    exact .bind (ih e _ hr) fun more more' hv hr => .ok (by simp [he, hv]) hr

theorem placeFree_run (level : Level) : PlaceFree Expr.erase (run next level) := by
  intro s t h
  refine .bind (hn _ _ h) fun first first' hfirst hr => ?_
  refine .bind (following_alike hn level _ _ hr) fun more more' hmore hr => .ok ?_ hr
  obtain ⟨_, rest, _⟩ := more
  obtain ⟨_, rest', _⟩ := more'
  exact erase_chained level hfirst hmore

theorem placeFree_comparison : PlaceFree Expr.erase (comparison next) := by
  intro s t h
  refine .bind (hn _ _ h) fun left left' hleft hr => ?_
  obtain ⟨left, s, hs⟩ := left
  obtain ⟨left', t, ht⟩ := left'
  dsimp only at hleft hr ⊢
  cases s with
  | nil =>
    obtain rfl : t = [] := List.map_eq_nil_iff.mp hr.symm
    exact .ok hleft rfl
  | cons x s =>
    obtain ⟨x, span⟩ := x
    obtain ⟨span', t, rfl, hst⟩ := exists_cons_of_kinds hr
    have hsame : leading? relation? [(x, span')] = leading? relation? [(x, span)] := leading_of_kinds _ rfl
    dsimp only
    rw [hsame]
    split
    · exact .ok hleft hr
    · refine .bind (hn _ _ hst) fun right right' hright hr => ?_
      rw [leading_of_kinds _ hr]
      split
      · exact .error rfl hr
      · exact .ok (by simp [hleft, hright]) hr

end Chains

/-! ### Expressions -/

section Expressions

variable {nested : Reader SpannedExpr} (hn : PlaceFree Expr.erase nested)
include hn

theorem placeFree_disjunction : PlaceFree Expr.erase (disjunction nested) := by
  have additive := placeFree_run (placeFree_run (placeFree_signed hn) .multiplicative) .additive
  exact placeFree_run (placeFree_run (placeFree_comparison additive) .and) .or

theorem placeFree_conditional : PlaceFree Expr.erase (conditional nested) := by
  intro s t h
  refine .bind (placeFree_disjunction hn _ _ h) fun cond cond' hcond hr => ?_
  obtain ⟨cond, s, hs⟩ := cond
  obtain ⟨cond', t, ht⟩ := cond'
  dsimp only at hcond hr ⊢
  split
  · obtain ⟨span', t, rfl, hst⟩ := exists_cons_of_kinds hr
    refine .bind (placeFree_disjunction hn _ _ hst) fun yes yes' hyes hr => ?_
    refine .bind (placeFree_expect .colon _ _ hr) fun c d _ hr => ?_
    exact .bind (hn _ _ hr) fun no no' hno hr => .ok (by simp [hcond, hyes, hno]) hr
  · rename_i hne
    split
    · obtain ⟨span', s, rfl, -⟩ := exists_cons_of_kinds hr.symm
      exact absurd rfl (hne _ _)
    · exact .ok hcond hr

end Expressions

/-- The reader of expressions does not look at places. -/
theorem placeFree_exprWithin (limit depth : Nat) : PlaceFree Expr.erase (exprWithin limit depth) := by
  induction depth with
  | zero => exact fun _ _ h => .error rfl h
  | succ depth ih => exact placeFree_conditional ih

end Parser

/-! ### Whole inputs -/

/-- What is said of a failure: the fault, and the token at which it shows. -/
theorem message_toError (eof : Span) (f : Failure) : (f.toError eof).message =
    f.fault.message (match (kinds f.rest).head? with
      | some t => "'" ++ t.text ++ "'"
      | none => "end of input") := by
  unfold Failure.toError
  split
  · rename_i h
    rw [h]
    rfl
  · rename_i h
    rw [h]
    rfl

private theorem message_of_kinds {eof eof' : Span} {f g : Failure} (hfault : f.fault = g.fault)
    (hrest : kinds f.rest = kinds g.rest) : (f.toError eof).message = (g.toError eof').message := by
  rw [message_toError, message_toError, hfault, hrest]

/-- Tokens that differ in their places only are both read, to the same tree up to places, or both refused, with the same
message. -/
theorem parseTokens_of_kinds (limit : Nat) {s t : List SpannedToken} (h : kinds s = kinds t) :
    (∃ e f, parseTokens limit s = .ok e ∧ parseTokens limit t = .ok f ∧ e.erase = f.erase) ∨
    ∃ e f, parseTokens limit s = .error e ∧ parseTokens limit t = .error f ∧ e.message = f.message := by
  have halike := Parser.placeFree_exprWithin limit limit s t h
  rw [parseTokens_eq, parseTokens_eq]
  generalize Parser.exprWithin limit limit s = x at halike
  generalize Parser.exprWithin limit limit t = y at halike
  cases halike with
  | ok hvalue hrest =>
    rename_i p q
    have hempty : p.rest.isEmpty = q.rest.isEmpty := by
      simpa only [kinds, List.isEmpty_map] using congrArg List.isEmpty hrest
    dsimp only
    rw [hempty]
    split
    · exact .inl ⟨_, _, rfl, rfl, hvalue⟩
    · exact .inr ⟨_, _, rfl, rfl, message_of_kinds rfl hrest⟩
  | error hfault hrest => exact .inr ⟨_, _, rfl, rfl, message_of_kinds hfault hrest⟩

end ExprLang
