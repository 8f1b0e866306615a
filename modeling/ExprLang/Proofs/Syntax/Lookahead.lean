import ExprLang.Proofs.Syntax.Reading

/-!
# One token ahead

What a reading comes to depends on the tokens that it takes and on the one at which it stops, whether it ends there with
a value or with a fault; what stands behind that token is not looked at (`OneAhead`). A value comes from the tokens that
were taken alone: the end of the input does as well behind them as the token at which the reading stopped (`Severable`).
The readers are first written as steps that keep their place also when they fail (`stopped`, `andThen`), and the steps
one after the other are severable when each of them is. `severable_exprWithin` is the induction over the nesting.
-/

namespace ExprLang.Parser

variable {β γ : Type} {b c : Nat}

/-- A value or a fault, and the tokens from the place on where the reading stopped. -/
abbrev Stopped (β : Type) := Except SyntaxFault β × List SpannedToken

/-- What a reading comes to, and where it stops. -/
def stopped : Except Failure (Parsed β b) → Stopped β
  | .ok p => (.ok p.value, p.rest)
  | .error f => (.error f.fault, f.rest)

/-- Goes on where a reading stopped, unless it failed. -/
def andThen (x : Stopped β) (k : β → List SpannedToken → Stopped γ) : Stopped γ :=
  match x with
  | (.ok v, s) => k v s
  | (.error e, s) => (.error e, s)

theorem stopped_bind {x : Except Failure (Parsed β b)} {f : Parsed β b → Except Failure (Parsed γ c)}
    {k : β → List SpannedToken → Stopped γ} (h : ∀ p, stopped (f p) = k p.value p.rest) :
    stopped (x >>= f) = andThen (stopped x) k := by
  cases x with
  | error e => rfl
  | ok p => exact h p

@[simp] theorem andThen_ok (x : Stopped β) : andThen x (fun v s => (.ok v, s)) = x := by
  rcases x with ⟨e | v, s⟩
  · rfl
  · rfl

theorem stopped_eq_ok {x : Except Failure (Parsed β b)} {v : β} {t : List SpannedToken}
    (h : stopped x = (.ok v, t)) : ∃ p, x = .ok p ∧ p.value = v ∧ p.rest = t := by
  cases x with
  | error e =>
    have := congrArg Prod.fst h
    cases this
  | ok p =>
    cases h
    exact ⟨p, rfl, rfl, rfl⟩

/-! ### Steps that look one token ahead -/

/-- Where the reading of `s` stops, the tokens from there on can be exchanged for any others with the same first one. -/
def OneAhead (r : List SpannedToken → Stopped β) (s : List SpannedToken) : Prop :=
  ∃ u, s = u ++ (r s).2 ∧ ∀ t, t.head? = (r s).2.head? → r (u ++ t) = ((r s).1, t)

/-- Besides, where the reading of `s` comes to a value, the tokens that it takes come to the same value alone. -/
def Severable (r : List SpannedToken → Stopped β) (s : List SpannedToken) : Prop :=
  ∃ u, s = u ++ (r s).2 ∧ (∀ t, t.head? = (r s).2.head? → r (u ++ t) = ((r s).1, t)) ∧
    ∀ v, (r s).1 = .ok v → r u = (.ok v, [])

/-- No reader reads anything of no tokens. -/
theorem andThen_nil_ne_ok {reader : Reader β} {k : β → List SpannedToken → Stopped γ} (w : γ) (t : List SpannedToken) :
    andThen (stopped (reader [])) k ≠ (.ok w, t) := by
  intro h
  rcases hr : stopped (reader []) with ⟨e | v, r⟩
  · rw [hr] at h
    cases h
  · obtain ⟨p, -⟩ := stopped_eq_ok hr
    exact Nat.not_lt_zero _ p.shorter

namespace Severable

variable {r r' : List SpannedToken → Stopped β} {k : β → List SpannedToken → Stopped γ} {s : List SpannedToken}

theorem oneAhead (h : Severable r s) : OneAhead r s := by
  obtain ⟨u, hs, ht, -⟩ := h
  exact ⟨u, hs, ht⟩

theorem stay (x : Except SyntaxFault β) (s : List SpannedToken) : Severable (fun s => (x, s)) s :=
  ⟨[], rfl, fun _ _ => rfl, fun _ h => congrArg (·, []) h⟩

private theorem head?_append_eq {s t : List SpannedToken} (h : t.head? = s.head?) (u : List SpannedToken) :
    (u ++ t).head? = (u ++ s).head? := by
  rw [List.head?_append, List.head?_append, h]

private theorem of_head (hr : ∀ t, t.head? = s.head? → r t = r' t)
    (hnil : ∀ v, r' [] = (.ok v, []) → r [] = (.ok v, [])) (h : Severable r' s) : Severable r s := by
  obtain ⟨u, hs, ht, hu⟩ := h
  have hrs : r s = r' s := hr s rfl
  refine ⟨u, by rw [hrs]; exact hs, fun t hhead => ?_, fun v hv => ?_⟩
  · rw [hrs] at hhead ⊢
    have hut : (u ++ t).head? = s.head? := by
      rw [head?_append_eq hhead u, ← hs]
    rw [hr _ hut, ht t hhead]
  · rw [hrs] at hv
    have hread := hu v hv
    cases u with
    | nil => exact hnil v hread
    | cons x u =>
      have hhead : (x :: u).head? = s.head? := by
        rw [hs]
        rfl
      rw [hr _ hhead, hread]

/-- The choice of a step may depend on the first token, where no token at all leads to the same choice. -/
theorem congr (hr : ∀ t, t = [] ∨ t.head? = s.head? → r t = r' t) (h : Severable r' s) : Severable r s := by
  refine of_head (fun t ht => hr t (.inr ht)) (fun v hv => ?_) h
  rw [hr [] (.inl rfl), hv]

/-- The choice of a step may depend on the first token, where the step comes to no value without any. -/
theorem congr_of_takes (hr : ∀ t, t.head? = s.head? → r t = r' t) (hnil : ∀ v t, r' [] ≠ (.ok v, t))
    (h : Severable r' s) : Severable r s :=
  of_head hr (fun v hv => absurd hv (hnil v [])) h

theorem tail (hne : s ≠ []) (h : Severable r s.tail) : Severable (fun s => r s.tail) s := by
  obtain ⟨x, s, rfl⟩ := List.exists_cons_of_ne_nil hne
  obtain ⟨u, hs, ht⟩ := h
  exact ⟨x :: u, congrArg (x :: ·) hs, ht⟩

theorem take {x : SpannedToken} (hr : ∀ t, r (x :: t) = r' t) (h : Severable r' s) : Severable r (x :: s) := by
  obtain ⟨u, hs, ht, hu⟩ := h
  refine ⟨x :: u, ?_, fun t hhead => ?_, fun v hv => ?_⟩
  · rw [hr]
    exact congrArg (x :: ·) hs
  · rw [hr] at hhead ⊢
    exact (hr _).trans (ht t hhead)
  · rw [hr] at hv ⊢
    exact hu v hv

theorem andThen (h : Severable r s) (hk : ∀ v t, r s = (.ok v, t) → Severable (k v) t) :
    Severable (fun s => Parser.andThen (r s) k) s := by
  obtain ⟨u, hs, hu, hsever⟩ := h
  unfold Severable
  dsimp only
  rcases hr : r s with ⟨e | v, t⟩
  · rw [hr] at hs hu
    refine ⟨u, hs, fun t' hhead => ?_, fun v hv => ?_⟩
    · rw [hu t' hhead]
      rfl
    · cases hv
  · rw [hr] at hs hu hsever
    have hvalue : Parser.andThen (.ok v, t) k = k v t := rfl
    obtain ⟨w, ht, hw, hsever'⟩ := hk v t hr
    -- the first step stops in front of `w`, which the second one takes
    have hstop {t' : List SpannedToken} (h : (w ++ t').head? = t.head?) :
        Parser.andThen (r (u ++ w ++ t')) k = k v (w ++ t') := by
      rw [List.append_assoc, hu _ h]
      rfl
    rw [hvalue]
    refine ⟨u ++ w, ?_, fun t' hhead => ?_, fun v' hv => ?_⟩
    · rw [List.append_assoc, ← ht]
      exact hs
    · rw [hstop]
      · exact hw t' hhead
      · rw [head?_append_eq hhead w, ← ht]
    · cases w with
      | nil =>
        rw [List.append_nil, hsever v rfl]
        exact hsever' v' hv
      | cons x w =>
        have hread : Parser.andThen (r (u ++ (x :: w) ++ [])) k = k v (x :: w ++ []) := by
          apply hstop
          rw [ht]
          rfl
        rw [List.append_nil, List.append_nil] at hread
        rw [hread]
        exact hsever' v' hv

/-- Tokens of one sort can be taken as a whole. -/
theorem takeWhile (p : SpannedToken → Bool) (f : Nat → β) (s : List SpannedToken) :
    Severable (fun s => (.ok (f (s.takeWhile p).length), s.dropWhile p)) s := by
  have hall : ∀ x ∈ s.takeWhile p, p x = true := List.all_eq_true.mp List.all_takeWhile
  have hread (t : List SpannedToken) (h : ∀ x ∈ t.head?, ¬ p x = true) :
      ((s.takeWhile p ++ t).takeWhile p).length = (s.takeWhile p).length ∧ (s.takeWhile p ++ t).dropWhile p = t := by
    have hstop : t.takeWhile p = [] ∧ t.dropWhile p = t := by
      cases t with
      | nil => exact ⟨rfl, rfl⟩
      | cons x t => exact ⟨List.takeWhile_cons_of_neg (h x rfl), List.dropWhile_cons_of_neg (h x rfl)⟩
    rw [List.takeWhile_append_of_pos hall, List.dropWhile_append_of_pos hall, hstop.1, hstop.2, List.append_nil]
    exact ⟨rfl, rfl⟩
  refine ⟨s.takeWhile p, List.takeWhile_append_dropWhile.symm, fun t hhead => ?_, fun v hv => ?_⟩
  · have hbehind : ∀ x ∈ t.head?, ¬ p x = true := by
      intro x hx
      have := List.head?_dropWhile_not p s
      rw [← hhead, hx] at this
      simpa using this
    obtain ⟨htake, hdrop⟩ := hread t hbehind
    simp only [htake, hdrop]
  · obtain ⟨htake, hdrop⟩ := hread [] (by simp)
    rw [List.append_nil] at htake hdrop
    simp only [htake, hdrop]
    exact congrArg (·, []) hv

end Severable

/-! ### Tests of the first token -/

section Heads

variable {s t : List SpannedToken}

private theorem test_congr {α : Type} {test : List SpannedToken → α}
    (htest : ∀ x span s t, test ((x, span) :: t) = test ((x, span) :: s)) (h : t.head? = s.head?) :
    test t = test s := by
  cases s with
  | nil => rw [List.head?_eq_none_iff.mp h]
  | cons x s =>
    obtain ⟨t, rfl⟩ := List.head?_eq_some_iff.mp h
    exact htest x.1 x.2 s t

private theorem startsWith_congr (y : Symbol) (h : t.head? = s.head?) : startsWith y t = startsWith y s :=
  test_congr (fun x _ _ _ => by cases x <;> rfl) h

private theorem leading_congr (f : Symbol → Option BinaryOp) (h : t.head? = s.head?) : leading? f t = leading? f s :=
  test_congr (fun x _ _ _ => by cases x <;> rfl) h

private theorem leadingSign_congr (h : t.head? = s.head?) : leadingSign? t = leadingSign? s :=
  test_congr (fun x _ _ _ => by cases x <;> rfl) h

private theorem ne_nil_of_leading {f : Symbol → Option BinaryOp} {op : BinaryOp} (h : leading? f s = some op) :
    s ≠ [] := by
  rintro rfl
  cases h

/-- What is so of no tokens and of `s` is so of all tokens that begin as `s` does. -/
private theorem of_begins {α : Type} {test : List SpannedToken → α} {x : α} (hnil : test [] = x) (hs : test s = x)
    (hcongr : t.head? = s.head? → test t = test s) (ht : t = [] ∨ t.head? = s.head?) : test t = x := by
  rcases ht with rfl | ht
  · exact hnil
  · rw [hcongr ht, hs]

private theorem not_startsWith_of_begins {y : Symbol} (h : ¬ startsWith y s = true)
    (ht : t = [] ∨ t.head? = s.head?) : ¬ startsWith y t = true := by
  rw [Bool.not_eq_true] at h ⊢
  exact of_begins rfl h (startsWith_congr y) ht

end Heads

/-! ### Series -/

theorem severable_expect (y : Symbol) (s : List SpannedToken) : Severable (fun s => stopped (expect y s)) s := by
  by_cases h : startsWith y s = true
  · obtain ⟨R, hR⟩ := startsWith_iff.1 h
    obtain ⟨span, rest, rfl, -⟩ := kinds_eq_cons hR
    refine .take (fun t => ?_) (.stay (.ok span) rest)
    simp [expect, stopped, pure_eq]
  · refine .congr (fun t ht => ?_) (.stay (.error (.expected y)) s)
    have h := not_startsWith_of_begins h ht
    unfold expect
    split
    · rename_i x span rest
      rw [if_neg (by simpa [startsWith] using h)]
      rfl
    · rfl

section Series

variable {item : Reader β} (close : Symbol) (trailing : Bool)

private theorem stopped_moreItems_comma (span : Span) (s : List SpannedToken) :
    stopped (moreItems item close trailing ((.symbol .comma, span) :: s)) =
      if trailing && startsWith close s then andThen (stopped (expect close s)) fun c s => (.ok ([], c), s)
      else andThen (stopped (item s)) fun x s =>
        andThen (stopped (moreItems item close trailing s)) fun more s => (.ok (x :: more.1, more.2), s) := by
  rw [moreItems]
  split
  · exact stopped_bind fun c => rfl
  · exact stopped_bind fun x => stopped_bind fun more => rfl

private theorem stopped_moreItems_other {s : List SpannedToken} (h : startsWith .comma s = false) :
    stopped (moreItems item close trailing s) = andThen (stopped (expect close s)) fun c s => (.ok ([], c), s) := by
  rw [moreItems]
  · exact stopped_bind fun c => rfl
  · rintro span rest rfl
    cases h

private theorem stopped_series (s : List SpannedToken) : stopped (series item close trailing s) =
    if startsWith close s then andThen (stopped (expect close s)) fun c s => (.ok ([], c), s)
    else andThen (stopped (item s)) fun x s =>
      andThen (stopped (moreItems item close trailing s)) fun more s => (.ok (x :: more.1, more.2), s) := by
  unfold series
  split
  · exact stopped_bind fun c => rfl
  · exact stopped_bind fun x => stopped_bind fun more => rfl

variable (hi : ∀ s, Severable (fun s => stopped (item s)) s)
include hi

private theorem severable_moreItems (s : List SpannedToken) :
    Severable (fun s => stopped (moreItems item close trailing s)) s := by
  -- whether a comma ends the series or goes on with it depends on the token behind it
  fun_induction moreItems item close trailing s with
  | case1 span rest hc =>
    refine .take (stopped_moreItems_comma close trailing span) (.congr_of_takes (fun t ht => if_pos ?_)
      andThen_nil_ne_ok (.andThen (severable_expect close rest) fun c t _ => .stay (.ok ([], c)) t))
    rwa [startsWith_congr close ht]
  | case2 span rest hc ih =>
    refine .take (stopped_moreItems_comma close trailing span) (.congr (fun t ht => if_neg ?_)
      (.andThen (hi rest) fun x t hx => ?_))
    · rw [Bool.and_eq_true, not_and] at hc ⊢
      exact fun htrailing => not_startsWith_of_begins (hc htrailing) ht
    · obtain ⟨p, -, -, rfl⟩ := stopped_eq_ok hx
      exact .andThen (ih p) fun more t _ => .stay (.ok (x :: more.1, more.2)) t
  | case3 s hs =>
    refine .congr (fun t ht => stopped_moreItems_other close trailing ?_)
      (.andThen (severable_expect close s) fun c t _ => .stay (.ok ([], c)) t)
    rw [Bool.eq_false_iff]
    refine not_startsWith_of_begins (fun h => ?_) ht
    obtain ⟨R, hR⟩ := startsWith_iff.1 h
    obtain ⟨span, rest, rfl, -⟩ := kinds_eq_cons hR
    exact hs span rest rfl

private theorem severable_series (s : List SpannedToken) :
    Severable (fun s => stopped (series item close trailing s)) s := by
  refine .congr (fun t _ => stopped_series close trailing t) ?_
  by_cases hc : startsWith close s = true
  · refine .congr_of_takes (fun t ht => if_pos ?_) andThen_nil_ne_ok
      (.andThen (severable_expect close s) fun c t _ => .stay (.ok ([], c)) t)
    rwa [startsWith_congr close ht]
  · refine .congr (fun t ht => if_neg (not_startsWith_of_begins hc ht)) (.andThen (hi s) fun x t _ => ?_)
    exact .andThen (severable_moreItems close trailing hi t) fun more t _ => .stay (.ok (x :: more.1, more.2)) t

end Series

/-! ### Operands -/

section Operands

variable {nested : Reader SpannedExpr}

private theorem stopped_entry (s : List SpannedToken) : stopped (entry nested s) =
    andThen (stopped (nested s)) fun key s => andThen (stopped (expect .colon s)) fun _ s =>
      andThen (stopped (nested s)) fun value s => (.ok (key, value), s) :=
  stopped_bind fun _ => stopped_bind fun _ => stopped_bind fun _ => rfl

private theorem stopped_group (span : Span) (s : List SpannedToken) :
    stopped (primary nested ((.symbol .openParen, span) :: s)) =
      andThen (stopped (nested s)) fun e s => andThen (stopped (expect .closeParen s)) fun _ s => (.ok e, s) :=
  stopped_bind fun _ => stopped_bind fun _ => rfl

private theorem stopped_list (span : Span) (s : List SpannedToken) :
    stopped (primary nested ((.symbol .openBracket, span) :: s)) =
      andThen (stopped (series nested .closeBracket true s)) fun items s =>
        (.ok (.list (span.through items.2) items.1), s) :=
  stopped_bind fun _ => rfl

private theorem stopped_map (span : Span) (s : List SpannedToken) :
    stopped (primary nested ((.symbol .openBrace, span) :: s)) =
      andThen (stopped (series (entry nested) .closeBrace true s)) fun entries s =>
        (.ok (.map (span.through entries.2) entries.1), s) :=
  stopped_bind fun _ => rfl

/-- A reading that hands on what another one read. -/
private theorem stopped_bind_same {x : Except Failure (Parsed β b)} {f : Parsed β b → Except Failure (Parsed β c)}
    (h : ∀ p, stopped (f p) = (.ok p.value, p.rest)) : stopped (x >>= f) = stopped x := by
  have hbind : stopped (x >>= f) = andThen (stopped x) fun v s => (.ok v, s) := stopped_bind h
  rw [hbind, andThen_ok]

private theorem stopped_call (e : SpannedExpr) (span : Span) (s : List SpannedToken) :
    stopped (suffixes nested e ((.symbol .openParen, span) :: s)) =
      andThen (stopped (series nested .closeParen false s)) fun args s =>
        stopped (suffixes nested (.call (e.span.through args.2) e args.1) s) := by
  rw [suffixes]
  exact stopped_bind fun _ => stopped_bind_same fun _ => rfl

private theorem stopped_index (e : SpannedExpr) (span : Span) (s : List SpannedToken) :
    stopped (suffixes nested e ((.symbol .openBracket, span) :: s)) =
      andThen (stopped (nested s)) fun i s => andThen (stopped (expect .closeBracket s)) fun close s =>
        stopped (suffixes nested (.index (e.span.through close) e i) s) := by
  rw [suffixes]
  exact stopped_bind fun _ => stopped_bind fun _ => stopped_bind_same fun _ => rfl

private theorem stopped_method (e : SpannedExpr) (dot : Span) (f : String) (span : Span) (s : List SpannedToken) :
    stopped (suffixes nested e ((.symbol .dot, dot) :: (.name f, span) :: s)) =
      if startsWith .openParen s then
        andThen (stopped (series nested .closeParen false s.tail)) fun args s =>
          stopped (suffixes nested (.call (e.span.through args.2) (.name span f) (e :: args.1)) s)
      else (.error (.expectedArguments f), s) := by
  split
  · rename_i h
    obtain ⟨R, hR⟩ := startsWith_iff.1 h
    obtain ⟨open', rest, rfl, -⟩ := kinds_eq_cons hR
    rw [suffixes]
    exact stopped_bind fun _ => stopped_bind_same fun _ => rfl
  · rename_i h
    rw [suffixes]
    · rfl
    · rintro open' rest rfl
      exact h rfl

/-- Whether the first token is a name. -/
private def startsWithName : List SpannedToken → Bool
  | (.name _, _) :: _ => true
  | _ => false

private theorem startsWithName_congr {s t : List SpannedToken} (h : t.head? = s.head?) :
    startsWithName t = startsWithName s :=
  test_congr (fun x _ _ _ => by cases x <;> rfl) h

private theorem stopped_dot (e : SpannedExpr) (dot : Span) {s : List SpannedToken} (h : startsWithName s = false) :
    stopped (suffixes nested e ((.symbol .dot, dot) :: s)) = (.error .expectedMethodName, s) := by
  rw [suffixes]
  · rfl
  · rintro f span open' rest rfl
    cases h
  · rintro f span rest rfl
    cases h

/-- Whether the first token goes on with an operand in front of it. -/
private def continues (s : List SpannedToken) : Bool :=
  startsWith .openParen s || startsWith .openBracket s || startsWith .dot s

private theorem continues_congr {s t : List SpannedToken} (h : t.head? = s.head?) : continues t = continues s := by
  rw [continues, startsWith_congr _ h, startsWith_congr _ h, startsWith_congr _ h]
  rfl

private theorem stopped_end (e : SpannedExpr) {s : List SpannedToken} (h : continues s = false) :
    stopped (suffixes nested e s) = (.ok e, s) := by
  rw [suffixes]
  · rfl
  all_goals
    intros
    subst_vars
    cases h

variable (hn : ∀ s, Severable (fun s => stopped (nested s)) s)
include hn

private theorem severable_entry (s : List SpannedToken) : Severable (fun s => stopped (entry nested s)) s := by
  refine .congr (fun t _ => stopped_entry t) (.andThen (hn s) fun key t _ => ?_)
  refine .andThen (severable_expect .colon t) fun _ t _ => ?_
  exact .andThen (hn t) fun value t _ => .stay (.ok (key, value)) t

private theorem severable_primary (s : List SpannedToken) : Severable (fun s => stopped (primary nested s)) s := by
  have stays {x : SpannedToken} {rest : List SpannedToken} {fault : SyntaxFault}
      (h : ∀ t, stopped (primary nested (x :: t)) = (.error fault, x :: t)) :
      Severable (fun s => stopped (primary nested s)) (x :: rest) := by
    refine .congr_of_takes (fun t ht => ?_) (fun _ _ hnil => by cases hnil) (.stay (.error fault) (x :: rest))
    obtain ⟨t, rfl⟩ := List.head?_eq_some_iff.mp ht
    exact h t
  rcases s with _ | ⟨⟨x, span⟩, rest⟩
  · refine .congr (fun t ht => ?_) (.stay (.error .expectedExpression) [])
    rw [List.head?_nil, List.head?_eq_none_iff, or_self] at ht
    rw [ht]
    rfl
  · cases x with
    | literal l => exact .take (fun t => rfl) (.stay (.ok (Expr.literal span l)) rest)
    | name n => exact .take (fun t => rfl) (.stay (.ok (Expr.name span n)) rest)
    | reserved w => exact stays fun t => rfl
    | symbol y =>
      cases y with
      | openParen =>
        refine .take (stopped_group span) (.andThen (hn rest) fun e t _ => ?_)
        exact .andThen (severable_expect .closeParen t) fun _ t _ => .stay (.ok e) t
      | openBracket =>
        refine .take (stopped_list span) (.andThen (severable_series _ true hn rest) fun items t _ => ?_)
        exact .stay (.ok (Expr.list (span.through items.2) items.1)) t
      | openBrace =>
        refine .take (stopped_map span) (.andThen (severable_series _ true (severable_entry hn) rest) ?_)
        exact fun entries t _ => .stay (.ok (Expr.map (span.through entries.2) entries.1)) t
      | _ => exact stays fun t => rfl

private theorem severable_suffixes (e : SpannedExpr) (s : List SpannedToken) :
    Severable (fun s => stopped (suffixes nested e s)) s := by
  fun_induction suffixes nested e s with
  | case1 e span rest ih =>
    refine .take (stopped_call e span) (.andThen (severable_series _ false hn rest) fun args t hargs => ?_)
    obtain ⟨p, -, rfl, rfl⟩ := stopped_eq_ok hargs
    exact ih p
  | case2 e span rest ih =>
    refine .take (stopped_index e span) (.andThen (hn rest) fun i t hi => ?_)
    obtain ⟨p, -, rfl, rfl⟩ := stopped_eq_ok hi
    refine .andThen (severable_expect _ _) fun close t hclose => ?_
    obtain ⟨q, -, rfl, rfl⟩ := stopped_eq_ok hclose
    exact ih p q
  | case3 e dot f span open' rest ih =>
    refine .take (fun t => rfl) (.take (stopped_method e dot f span) (.congr_of_takes (fun t ht => if_pos ?_)
      andThen_nil_ne_ok
      (.tail (List.cons_ne_nil _ rest) (.andThen (severable_series _ false hn rest) fun args t hargs => ?_))))
    · rw [startsWith_congr _ ht]
      rfl
    · obtain ⟨p, -, rfl, rfl⟩ := stopped_eq_ok hargs
      exact ih p
  | case4 e dot f span rest h =>
    refine .take (fun t => rfl) (.take (stopped_method e dot f span) (.congr (fun t ht => if_neg ?_)
      (.stay (.error (.expectedArguments f)) rest)))
    refine not_startsWith_of_begins (fun hopen => ?_) ht
    obtain ⟨R, hR⟩ := startsWith_iff.1 hopen
    obtain ⟨open', rest', rfl, -⟩ := kinds_eq_cons hR
    exact h open' rest' rfl
  | case5 e dot rest h h' =>
    refine .take (fun t => rfl) (.congr (fun t ht => stopped_dot e dot ?_)
      (.stay (.error .expectedMethodName) rest))
    refine of_begins rfl ?_ startsWithName_congr ht
    unfold startsWithName
    split
    · exact absurd rfl (h' _ _ _)
    · rfl
  | case6 e s h₁ h₂ h₃ h₄ h₅ =>
    refine .congr (fun t ht => stopped_end e ?_) (.stay (.ok e) s)
    refine of_begins rfl ?_ continues_congr ht
    rcases s with _ | ⟨⟨x, span⟩, rest⟩
    · rfl
    · cases x with
      | symbol y =>
        cases y with
        | openParen => exact absurd rfl (h₁ span rest)
        | openBracket => exact absurd rfl (h₂ span rest)
        | dot => exact absurd rfl (h₅ span rest)
        | _ => rfl
      | _ => rfl

private theorem severable_operand (s : List SpannedToken) : Severable (fun s => stopped (operand nested s)) s := by
  have hoperand (s : List SpannedToken) : stopped (operand nested s) =
      andThen (stopped (primary nested s)) fun e s => stopped (suffixes nested e s) :=
    stopped_bind fun _ => stopped_bind_same fun _ => rfl
  exact .congr (fun t _ => hoperand t)
    (.andThen (severable_primary hn s) fun e t _ => severable_suffixes hn e t)

/-- What follows `count` signs in front of an operand. -/
private def behindSigns (nested : Reader SpannedExpr) (span : Span) (op : UnaryOp) (count : Nat)
    (s : List SpannedToken) : Stopped SpannedExpr :=
  if (leadingSign? s).isSome then (.error (.mixedSigns op), s)
  else andThen (stopped (operand nested s)) fun e s => (.ok (.unary (span.through e.span) op count e), s)

omit hn in
private theorem signed_eq_operand {s : List SpannedToken} (h : leadingSign? s = none) :
    signed nested s = operand nested s := by
  rcases s with _ | ⟨⟨x, span⟩, rest⟩
  · rfl
  · have hx : leadingSign? [(x, span)] = none := by
      cases x <;> exact h
    simp only [signed, hx]

omit hn in
private theorem stopped_signed {x : SpannedToken} {op : UnaryOp} (h : leadingSign? [x] = some op)
    (s : List SpannedToken) : stopped (signed nested (x :: s)) =
      andThen (.ok (1 + (s.takeWhile (isSign op)).length), s.dropWhile (isSign op)) (behindSigns nested x.2 op) := by
  obtain ⟨x, span⟩ := x
  simp only [signed, h, andThen, behindSigns]
  split
  · rfl
  · exact stopped_bind fun _ => rfl

private theorem severable_signed (s : List SpannedToken) : Severable (fun s => stopped (signed nested s)) s := by
  cases h : leadingSign? s with
  | none =>
    refine .congr (fun t ht => ?_) (severable_operand hn s)
    rw [signed_eq_operand (of_begins rfl h leadingSign_congr ht)]
  | some op =>
    rcases s with _ | ⟨x, rest⟩
    · cases h
    · have hx : leadingSign? [x] = some op := by
        rw [← h]
        exact leadingSign_congr rfl
      refine .take (stopped_signed hx) (.andThen (.takeWhile (isSign op) (1 + ·) rest) fun count t _ => ?_)
      by_cases hsign : (leadingSign? t).isSome = true
      · refine .congr_of_takes (fun t' ht => if_pos ?_) (fun _ _ hnil => by cases hnil)
          (.stay (.error (.mixedSigns op)) t)
        rwa [leadingSign_congr ht]
      · refine .congr (fun t' ht => if_neg ?_) (.andThen (severable_operand hn t) fun e t _ => ?_)
        · rw [Bool.not_eq_true, Option.isSome_eq_false_iff, Option.isNone_iff_eq_none] at hsign
          rw [of_begins rfl hsign leadingSign_congr ht]
          exact Bool.false_ne_true
        · exact .stay (.ok (Expr.unary (x.2.through e.span) op count e)) t

end Operands

/-! ### Operators between operands -/

section Chains

variable {next : Reader SpannedExpr}

private theorem stopped_following_none {level : Level} {s : List SpannedToken}
    (h : leading? (operator? level) s = none) : stopped (following next level s) = (.ok [], s) := by
  rcases s with _ | ⟨x, rest⟩
  · rw [following]
    rfl
  · have hx : leading? (operator? level) [x] = none := by rw [leading_singleton _ x rest, h]
    rw [following, hx]
    rfl

private theorem stopped_following_some {level : Level} {x : SpannedToken} {op : BinaryOp}
    (h : leading? (operator? level) [x] = some op) (s : List SpannedToken) :
    stopped (following next level (x :: s)) = andThen (stopped (next s)) fun e s =>
      andThen (stopped (following next level s)) fun more s => (.ok ((op, e) :: more), s) := by
  rw [following, h]
  exact stopped_bind fun _ => stopped_bind fun _ => rfl

/-- What follows a left operand that a comparison can go on with. -/
private def afterLeft (next : Reader SpannedExpr) (left : SpannedExpr) (s : List SpannedToken) : Stopped SpannedExpr :=
  match leading? relation? s with
  | none => (.ok left, s)
  | some op => andThen (stopped (next s.tail)) fun right s =>
    match leading? relation? s with
    | some again => (.error (.chainedRelation op again), s)
    | none => (.ok (.relation (left.span.through right.span) op left right), s)

private theorem stopped_comparison (s : List SpannedToken) :
    stopped (comparison next s) = andThen (stopped (next s)) (afterLeft next) := by
  refine stopped_bind fun left => ?_
  unfold afterLeft
  split
  · rename_i hrest
    simp only [hrest]
    exact congrArg (Prod.mk _) hrest
  · rename_i x rest hrest
    have hx : leading? relation? left.rest = leading? relation? [x] := by
      rw [hrest, leading_singleton]
    have htail : left.rest.tail = rest := by
      rw [hrest]
      rfl
    rw [hx, htail]
    cases leading? relation? [x] with
    | none => rfl
    | some op =>
      refine stopped_bind fun right => ?_
      cases leading? relation? right.rest with
      | none => rfl
      | some again => rfl

variable (hn : ∀ s, Severable (fun s => stopped (next s)) s)
include hn

private theorem severable_following (level : Level) (s : List SpannedToken) :
    Severable (fun s => stopped (following next level s)) s := by
  have stays {s : List SpannedToken} (h : leading? (operator? level) s = none) :
      Severable (fun s => stopped (following next level s)) s := by
    exact .congr (fun t ht => stopped_following_none (of_begins rfl h (leading_congr _) ht)) (.stay (.ok []) s)
  fun_induction following next level s with
  | case1 => exact stays rfl
  | case2 x rest hop => exact stays (by rw [← leading_singleton, hop])
  | case3 x rest op hop ih =>
    refine .take (stopped_following_some hop) (.andThen (hn rest) fun e t he => ?_)
    obtain ⟨p, -, rfl, rfl⟩ := stopped_eq_ok he
    exact .andThen (ih p) fun more t _ => .stay (.ok ((op, p.value) :: more)) t

private theorem severable_run (level : Level) (s : List SpannedToken) :
    Severable (fun s => stopped (run next level s)) s := by
  have hrun (s : List SpannedToken) : stopped (run next level s) = andThen (stopped (next s)) fun first s =>
      andThen (stopped (following next level s)) fun more s => (.ok (chained level first more), s) :=
    stopped_bind fun _ => stopped_bind fun _ => rfl
  refine .congr (fun t _ => hrun t) (.andThen (hn s) fun first t _ => ?_)
  exact .andThen (severable_following hn level t) fun more t _ => .stay (.ok (chained level first more)) t

private theorem severable_comparison (s : List SpannedToken) :
    Severable (fun s => stopped (comparison next s)) s := by
  refine .congr (fun t _ => stopped_comparison t) (.andThen (hn s) fun left t _ => ?_)
  cases hop : leading? relation? t with
  | none =>
    refine .congr (fun t' ht => ?_) (.stay (.ok left) t)
    have hnone : leading? relation? t' = none := of_begins rfl hop (leading_congr _) ht
    rw [afterLeft, hnone]
  | some op =>
    have hstep (t' : List SpannedToken) (ht : t'.head? = t.head?) : afterLeft next left t' =
        andThen (stopped (next t'.tail)) fun right s =>
          match leading? relation? s with
          | some again => (.error (.chainedRelation op again), s)
          | none => (.ok (.relation (left.span.through right.span) op left right), s) := by
      rw [afterLeft, leading_congr _ ht, hop]
    refine .congr_of_takes hstep andThen_nil_ne_ok
      (.tail (ne_nil_of_leading hop) (.andThen (hn t.tail) fun right t _ => ?_))
    -- a second comparison is a fault, at which the reading stays
    cases hagain : leading? relation? t with
    | none =>
      refine .congr (fun t' ht => ?_) (.stay (.ok (Expr.relation (left.span.through right.span) op left right)) t)
      have hnone : leading? relation? t' = none := of_begins rfl hagain (leading_congr _) ht
      rw [hnone]
    | some again =>
      refine .congr_of_takes (fun t' ht => ?_) (fun _ _ hnil => by cases hnil)
        (.stay (.error (.chainedRelation op again)) t)
      rw [leading_congr _ ht, hagain]

end Chains

/-! ### Expressions -/

section Expressions

variable {nested : Reader SpannedExpr} (hn : ∀ s, Severable (fun s => stopped (nested s)) s)

private theorem stopped_conditional (s : List SpannedToken) : stopped (conditional nested s) =
    andThen (stopped (disjunction nested s)) fun cond s =>
      if startsWith .question s then
        andThen (stopped (disjunction nested s.tail)) fun yes s => andThen (stopped (expect .colon s)) fun _ s =>
          andThen (stopped (nested s)) fun no s => (.ok (.ternary (cond.span.through no.span) cond yes no), s)
      else (.ok cond, s) := by
  refine stopped_bind fun cond => ?_
  split
  · rename_i span rest hrest
    have hquestion : startsWith .question cond.rest = true := by
      rw [hrest]
      rfl
    have htail : cond.rest.tail = rest := by
      rw [hrest]
      rfl
    rw [if_pos hquestion, htail]
    exact stopped_bind fun _ => stopped_bind fun _ => stopped_bind fun _ => rfl
  · rename_i hne
    rw [if_neg]
    · rfl
    · intro hquestion
      obtain ⟨R, hR⟩ := startsWith_iff.1 hquestion
      obtain ⟨span, rest, hrest, -⟩ := kinds_eq_cons hR
      exact hne span rest hrest

include hn

private theorem severable_disjunction (s : List SpannedToken) :
    Severable (fun s => stopped (disjunction nested s)) s := by
  have additive := severable_run (severable_run (severable_signed hn) .multiplicative) .additive
  exact severable_run (severable_run (severable_comparison additive) .and) .or s

private theorem severable_conditional (s : List SpannedToken) :
    Severable (fun s => stopped (conditional nested s)) s := by
  refine .congr (fun t _ => stopped_conditional t) (.andThen (severable_disjunction hn s) fun cond t _ => ?_)
  by_cases hquestion : startsWith .question t = true
  · have hne : t ≠ [] := by
      rintro rfl
      cases hquestion
    refine .congr_of_takes (fun t' ht => if_pos ?_) andThen_nil_ne_ok
      (.tail hne (.andThen (severable_disjunction hn t.tail) fun yes t _ => ?_))
    · rwa [startsWith_congr _ ht]
    · refine .andThen (severable_expect .colon t) fun _ t _ => .andThen (hn t) fun no t _ => ?_
      exact .stay (.ok (Expr.ternary (cond.span.through no.span) cond yes no)) t
  · exact .congr (fun t' ht => if_neg (not_startsWith_of_begins hquestion ht)) (.stay (.ok cond) t)

end Expressions

/-- The reader of expressions looks one token ahead, and not behind what it reads. -/
theorem severable_exprWithin (limit depth : Nat) (s : List SpannedToken) :
    Severable (fun s => stopped (exprWithin limit depth s)) s := by
  induction depth generalizing s with
  | zero => exact .stay (.error (.tooDeep limit)) s
  | succ depth ih => exact severable_conditional ih s

/-- The reader of expressions looks one token ahead. -/
theorem oneAhead_exprWithin (limit depth : Nat) (s : List SpannedToken) :
    OneAhead (fun s => stopped (exprWithin limit depth s)) s :=
  (severable_exprWithin limit depth s).oneAhead

end ExprLang.Parser
