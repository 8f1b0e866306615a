import ExprLang.Proofs.Syntax.Grammar
import ExprLang.Proofs.Syntax.Counting

/-!
# Readers and phrases

Each reader reads the phrases of its level of the grammar: what it reads is a phrase (`sound`), and it reads every
phrase that the tokens behind it do not go on with (`complete`). The levels are taken one after the other, each from
the one below; `reads_exprWithin` is the induction over the nesting.
-/

namespace ExprLang

open Grammar

/-- The tokens without their places. -/
def kinds (s : List SpannedToken) : List Token := s.map Prod.fst

@[simp] theorem kinds_nil : kinds [] = [] := rfl

@[simp] theorem kinds_cons (t : SpannedToken) (s : List SpannedToken) : kinds (t :: s) = t.1 :: kinds s := rfl

theorem kinds_append (s t : List SpannedToken) : kinds (s ++ t) = kinds s ++ kinds t := List.map_append

theorem kinds_eq_cons {s : List SpannedToken} {t : Token} {R : List Token} (h : kinds s = t :: R) :
    ∃ span rest, s = (t, span) :: rest ∧ kinds rest = R := by
  obtain ⟨⟨_, span⟩, rest, rfl, rfl, rfl⟩ := List.map_eq_cons_iff.1 h
  exact ⟨span, rest, rfl, rfl⟩

/-- Some tokens with the given kinds. -/
theorem exists_kinds (T : List Token) : ∃ tokens, kinds tokens = T :=
  ⟨T.map fun t => (t, ⟨0, 0⟩), by simp [kinds, Function.comp_def]⟩

namespace Parser

variable {β γ : Type}

/-- What the reader reads is a phrase of `P`, seen through `view`. -/
def Sound (view : β → γ) (reader : Reader β) (P : Phrase γ) : Prop :=
  ∀ s p, reader s = .ok p → ∃ T, kinds s = T ++ kinds p.rest ∧ P T (view p.value)

/-- The reader reads the phrases of `P`, seen through `view`; those of a level up to `k` where what follows does not
go on with them. -/
structure Reads (k : Nat) (view : β → γ) (reader : Reader β) (P : Phrase γ) : Prop where
  sound : ∀ s p, reader s = .ok p → ∃ T, kinds s = T ++ kinds p.rest ∧ P T (view p.value)
  complete : ∀ s T R x, kinds s = T ++ R → P T x → Settled k R →
    ∃ p, reader s = .ok p ∧ kinds p.rest = R ∧ view p.value = x

theorem bind_eq_ok {ε α δ : Type} {x : Except ε α} {f : α → Except ε δ} {d : δ} :
    x >>= f = .ok d ↔ ∃ a, x = .ok a ∧ f a = .ok d := by
  cases x with
  | error e => simp [bind, Except.bind]
  | ok a => simp [bind, Except.bind]

private theorem ok_bind {ε α δ : Type} (a : α) (f : α → Except ε δ) : (Except.ok a >>= f) = f a := rfl

theorem pure_eq {ε α : Type} (a : α) : (pure a : Except ε α) = .ok a := rfl

/-! ### Symbols -/

theorem expect_sound {y : Symbol} {s : List SpannedToken} {p : Parsed Span s.length}
    (h : (expect y : Reader Span) s = .ok p) : kinds s = .symbol y :: kinds p.rest := by
  unfold expect at h
  split at h
  · split at h
    · rename_i hxy
      cases h
      rw [kinds_cons, hxy]
    · cases h
  · cases h

theorem expect_complete {y : Symbol} {s : List SpannedToken} {R : List Token}
    (h : kinds s = .symbol y :: R) : ∃ p, (expect y : Reader Span) s = .ok p ∧ kinds p.rest = R := by
  obtain ⟨span, rest, rfl, rfl⟩ := kinds_eq_cons h
  simp [expect, pure_eq]

theorem startsWith_iff {y : Symbol} {s : List SpannedToken} :
    startsWith y s = true ↔ ∃ R, kinds s = .symbol y :: R := by
  unfold startsWith
  split
  · simp
  · rename_i h
    simp only [Bool.false_eq_true, false_iff, not_exists]
    intro R hR
    obtain ⟨span, rest, rfl, -⟩ := kinds_eq_cons hR
    exact h _ _ _ rfl

/-- A phrase that begins as expressions do does not begin with a closing symbol. -/
theorem not_startsWith {P : Phrase γ} (hb : Begins opens P) {y : Symbol} (hy : opens (.symbol y) = false)
    {s : List SpannedToken} {T R : List Token} {x : γ} (hT : P T x) (hs : kinds s = T ++ R) :
    startsWith y s = false := by
  rw [Bool.eq_false_iff, ne_eq, startsWith_iff]
  rintro ⟨R', hR'⟩
  obtain ⟨t, T', rfl, ht⟩ := hb T x hT
  rw [hR'] at hs
  cases hs
  rw [hy] at ht
  cases ht

/-! ### Series -/

/-- The end of a series: the closing symbol, perhaps with a comma before it, and the tokens behind. -/
inductive Ends (close : Symbol) (trailing : Bool) (R : List Token) : List Token → Prop
  | close : Ends close trailing R (.symbol close :: R)
  | comma : trailing = true → Ends close trailing R (.symbol .comma :: .symbol close :: R)

/-- The symbols that close a series. -/
def closing : List Symbol := [.closeParen, .closeBracket, .closeBrace]

section Series

variable {item : Reader β} {P : Phrase γ} {view : β → γ} {close : Symbol} {trailing : Bool}

private theorem opens_closing (hc : close ∈ closing) : opens (.symbol close) = false := by
  have all : ∀ y ∈ closing, opens (.symbol y) = false := by decide
  exact all _ hc

private theorem Ends.settled {R Z : List Token} (h : Ends close trailing R Z) (hc : close ∈ closing) :
    Settled 7 Z := by
  cases h with
  | close =>
    have all : ∀ y ∈ closing, 7 < y.reach := by decide
    exact all _ hc
  | comma => simp [Symbol.reach]

private theorem settled_more {S Z : List Token} {xs : List γ} (h : More P S xs) (hz : Settled 7 Z) :
    Settled 7 (S ++ Z) := by
  cases h with
  | nil => exact hz
  | cons => simp [Symbol.reach]

theorem moreItems_sound (hi : Sound view item P) (s) (p) (h : moreItems item close trailing s = .ok p) :
    ∃ S Z, kinds s = S ++ Z ∧ More P S (p.value.1.map view) ∧ Ends close trailing (kinds p.rest) Z := by
  fun_induction moreItems item close trailing s with
  | case1 span rest hc =>
    obtain ⟨c, hc', h⟩ := bind_eq_ok.1 h
    cases h
    simp only [Bool.and_eq_true] at hc
    exact ⟨[], _, by simp [expect_sound hc'], .nil, .comma hc.1⟩
  | case2 span rest hc ih =>
    obtain ⟨x, hx, h⟩ := bind_eq_ok.1 h
    obtain ⟨more, hm, h⟩ := bind_eq_ok.1 h
    cases h
    obtain ⟨T, hT, hP⟩ := hi _ _ hx
    obtain ⟨S, Z, hS, hms, hz⟩ := ih x more hm
    exact ⟨_, Z, by simp [hT, hS], .cons hP hms, hz⟩
  | case3 s hs =>
    obtain ⟨c, hc, h⟩ := bind_eq_ok.1 h
    cases h
    exact ⟨[], _, expect_sound hc, .nil, .close⟩

private theorem moreItems_complete (hi : Reads 7 view item P) (hb : Begins opens P) (hc : close ∈ closing)
    {R S Z : List Token} {xs : List γ} (h : More P S xs) (hz : Ends close trailing R Z) (s : List SpannedToken)
    (hs : kinds s = S ++ Z) :
    ∃ p, moreItems item close trailing s = .ok p ∧ kinds p.rest = R ∧ p.value.1.map view = xs := by
  induction h generalizing s with
  | nil =>
    cases hz with
    | close =>
      obtain ⟨c, hc', hR⟩ := expect_complete hs
      rw [moreItems]
      · simp [hc', hR, ok_bind, pure_eq]
      · rintro _ _ rfl
        cases hs
        simp [closing] at hc
    | comma ht =>
      -- the closing symbol behind the comma shows that it is the trailing one
      obtain ⟨span, rest, rfl, h⟩ := kinds_eq_cons hs
      obtain ⟨c, hc', hR⟩ := expect_complete h
      have hw : startsWith close rest = true := startsWith_iff.2 ⟨_, h⟩
      rw [moreItems]
      simp [hc', hR, hw, ht, ok_bind, pure_eq]
  | @cons T S x xs hx hm ih =>
    rw [List.cons_append, List.append_assoc] at hs
    obtain ⟨span, rest, rfl, h⟩ := kinds_eq_cons hs
    have hw := not_startsWith hb (opens_closing hc) hx h
    obtain ⟨y, hy, hyR, rfl⟩ := hi.complete _ _ _ _ h hx (settled_more hm (hz.settled hc))
    obtain ⟨p, hp, hpR, rfl⟩ := ih y.rest hyR
    rw [moreItems]
    simp [hw, hy, hp, hpR, ok_bind, pure_eq]

theorem series_sound (hi : Sound view item P) {s} {p} (h : series item close trailing s = .ok p) :
    ∃ T, kinds s = T ++ .symbol close :: kinds p.rest ∧ Enclosed P trailing T (p.value.1.map view) := by
  unfold series at h
  split at h
  · obtain ⟨c, hc, h⟩ := bind_eq_ok.1 h
    cases h
    exact ⟨[], expect_sound hc, .nothing⟩
  · obtain ⟨x, hx, h⟩ := bind_eq_ok.1 h
    obtain ⟨more, hm, h⟩ := bind_eq_ok.1 h
    cases h
    obtain ⟨T, hT, hP⟩ := hi _ _ hx
    obtain ⟨S, Z, hS, hms, hz⟩ := moreItems_sound hi _ _ hm
    cases hz with
    | close => exact ⟨_, by simp [hT, hS], .series hP hms⟩
    | comma ht => exact ⟨_, by simp [hT, hS], .comma ht hP hms⟩

private theorem series_complete (hi : Reads 7 view item P) (hb : Begins opens P) (hc : close ∈ closing)
    {R T : List Token} {xs : List γ} (h : Enclosed P trailing T xs) {s : List SpannedToken}
    (hs : kinds s = T ++ .symbol close :: R) :
    ∃ p, series item close trailing s = .ok p ∧ kinds p.rest = R ∧ p.value.1.map view = xs := by
  -- a series of at least one item, with the tokens `Z` at its end
  have nonempty {U S Z x xs} (hx : P U x) (hm : More P S xs) (hz : Ends close trailing R Z)
      (hs : kinds s = U ++ (S ++ Z)) :
      ∃ p, series item close trailing s = .ok p ∧ kinds p.rest = R ∧ p.value.1.map view = x :: xs := by
    have hw := not_startsWith hb (opens_closing hc) hx hs
    obtain ⟨y, hy, hyR, rfl⟩ := hi.complete _ _ _ _ hs hx (settled_more hm (hz.settled hc))
    obtain ⟨p, hp, hpR, rfl⟩ := moreItems_complete hi hb hc hm hz y.rest hyR
    unfold series
    simp [hw, hy, hp, hpR, ok_bind, pure_eq]
  cases h with
  | nothing =>
    obtain ⟨c, hc', hR⟩ := expect_complete hs
    have hw : startsWith close s = true := startsWith_iff.2 ⟨_, hs⟩
    unfold series
    simp [hw, hc', hR, ok_bind, pure_eq]
  | series hx hm => exact nonempty hx hm .close (by simpa using hs)
  | comma ht hx hm => exact nonempty hx hm (.comma ht) (by simpa using hs)

end Series

/-! ### Operands -/

section Operands

variable {nested : Reader SpannedExpr} {E : Phrase Tree}

theorem sound_entry (hn : Sound Expr.erase nested E) :
    Sound (Prod.map Expr.erase Expr.erase) (entry nested) (Entry E) := by
  intro s p h
  unfold entry at h
  obtain ⟨k, hk, h⟩ := bind_eq_ok.1 h
  obtain ⟨c, hc, h⟩ := bind_eq_ok.1 h
  obtain ⟨v, hv, h⟩ := bind_eq_ok.1 h
  cases h
  obtain ⟨T, hT, hPk⟩ := hn _ _ hk
  obtain ⟨S, hS, hPv⟩ := hn _ _ hv
  exact ⟨_, by simp [hT, expect_sound hc, hS], .mk hPk hPv⟩

private theorem reads_entry (hn : Reads 7 Expr.erase nested E) :
    Reads 7 (Prod.map Expr.erase Expr.erase) (entry nested) (Entry E) where
  sound := sound_entry hn.sound
  complete s T R x hs hT hR := by
    obtain ⟨hTk, hTv⟩ := hT
    rw [List.append_assoc, List.cons_append] at hs
    obtain ⟨k, hk, hkR, rfl⟩ := hn.complete _ _ _ _ hs hTk (by simp [Symbol.reach])
    obtain ⟨c, hc, hcR⟩ := expect_complete hkR
    obtain ⟨v, hv, hvR, rfl⟩ := hn.complete _ _ _ _ hcR hTv hR
    unfold entry
    simp [hk, hc, hv, hvR, ok_bind, pure_eq]

theorem sound_primary (hn : Sound Expr.erase nested E) : Sound Expr.erase (primary nested) (Primary E) := by
  intro s p h
  unfold primary at h
  split at h
  · cases h
    exact ⟨_, rfl, .literal _⟩
  · cases h
    exact ⟨_, rfl, .name _⟩
  · cases h
  · obtain ⟨e, he, h⟩ := bind_eq_ok.1 h
    obtain ⟨c, hc, h⟩ := bind_eq_ok.1 h
    cases h
    obtain ⟨T, hT, hE⟩ := hn _ _ he
    exact ⟨_, by simp [hT, expect_sound hc], .group hE⟩
  · obtain ⟨es, he, h⟩ := bind_eq_ok.1 h
    cases h
    obtain ⟨T, hT, hE⟩ := series_sound hn he
    exact ⟨.symbol .openBracket :: (T ++ [.symbol .closeBracket]), by simp [hT], by simpa using .list hE⟩
  · obtain ⟨es, he, h⟩ := bind_eq_ok.1 h
    cases h
    obtain ⟨T, hT, hE⟩ := series_sound (sound_entry hn) he
    exact ⟨.symbol .openBrace :: (T ++ [.symbol .closeBrace]), by simp [hT], by simpa using .map hE⟩
  · cases h

private theorem reads_primary (hn : Reads 7 Expr.erase nested E) (hb : Begins opens E) :
    Reads 0 Expr.erase (primary nested) (Primary E) where
  sound := sound_primary hn.sound
  complete s T R x hs hT _ := by
    cases hT with
    | literal l =>
      obtain ⟨span, rest, rfl, rfl⟩ := kinds_eq_cons hs
      exact ⟨_, rfl, rfl, rfl⟩
    | name n =>
      obtain ⟨span, rest, rfl, rfl⟩ := kinds_eq_cons hs
      exact ⟨_, rfl, rfl, rfl⟩
    | group hE =>
      rw [List.cons_append, List.append_assoc] at hs
      obtain ⟨span, rest, rfl, h⟩ := kinds_eq_cons hs
      obtain ⟨e, he, heR, rfl⟩ := hn.complete _ _ _ _ h hE (by simp [Symbol.reach])
      obtain ⟨c, hc, hcR⟩ := expect_complete heR
      simp [primary, he, hc, hcR, ok_bind, pure_eq]
    | list hE =>
      rw [List.cons_append, List.append_assoc] at hs
      obtain ⟨span, rest, rfl, h⟩ := kinds_eq_cons hs
      obtain ⟨es, he, heR, rfl⟩ := series_complete hn hb (by simp [closing]) hE h
      simp [primary, he, heR, ok_bind, pure_eq]
    | map hE =>
      rw [List.cons_append, List.append_assoc] at hs
      obtain ⟨span, rest, rfl, h⟩ := kinds_eq_cons hs
      obtain ⟨es, he, heR, rfl⟩ := series_complete (reads_entry hn) (begins_entry hb) (by simp [closing]) hE h
      simp [primary, he, heR, ok_bind, pure_eq]

theorem suffixes_sound (hn : Sound Expr.erase nested E) (e : SpannedExpr) (s) (p)
    (h : suffixes nested e s = .ok p) (k : Nat) (U : List Token) (hU : Suffixed E k U e.erase) :
    ∃ j T, kinds s = T ++ kinds p.rest ∧ Suffixed E j (U ++ T) p.value.erase := by
  fun_induction suffixes nested e s generalizing k U with
  | case1 e span rest ih =>
    obtain ⟨args, ha, h⟩ := bind_eq_ok.1 h
    obtain ⟨more, hm, h⟩ := bind_eq_ok.1 h
    cases h
    obtain ⟨A, hA, hargs⟩ := series_sound hn ha
    obtain ⟨j, T, hT, hj⟩ := ih args more hm _ _ (by simpa using .call hU hargs)
    exact ⟨j, .symbol .openParen :: (A ++ .symbol .closeParen :: T), by simp [hA, hT], by simpa using hj⟩
  | case2 e span rest ih =>
    obtain ⟨i, hi, h⟩ := bind_eq_ok.1 h
    obtain ⟨c, hc, h⟩ := bind_eq_ok.1 h
    obtain ⟨more, hm, h⟩ := bind_eq_ok.1 h
    cases h
    obtain ⟨S, hS, hidx⟩ := hn _ _ hi
    obtain ⟨j, T, hT, hj⟩ := ih i c more hm _ _ (by simpa using .index hU hidx)
    exact ⟨j, .symbol .openBracket :: (S ++ .symbol .closeBracket :: T), by simp [hS, expect_sound hc, hT],
      by simpa using hj⟩
  | case3 e span f span' span'' rest ih =>
    obtain ⟨args, ha, h⟩ := bind_eq_ok.1 h
    obtain ⟨more, hm, h⟩ := bind_eq_ok.1 h
    cases h
    obtain ⟨A, hA, hargs⟩ := series_sound hn ha
    obtain ⟨j, T, hT, hj⟩ := ih args more hm _ _ (by simpa using .method hU hargs)
    exact ⟨j, .symbol .dot :: .name f :: .symbol .openParen :: (A ++ .symbol .closeParen :: T), by simp [hA, hT],
      by simpa using hj⟩
  | case4 => cases h
  | case5 => cases h
  | case6 e s =>
    cases h
    exact ⟨k, [], rfl, by simpa using hU⟩

/-- Reading an operand that begins with the phrase `T` comes to what follows `T`, with the tree of `T`. -/
private theorem operand_of_suffixed (hn : Reads 7 Expr.erase nested E) (hb : Begins opens E) {k : Nat}
    {T : List Token} {x : Tree} (hT : Suffixed E k T x) (s : List SpannedToken) (R : List Token)
    (hs : kinds s = T ++ R) : ∃ e r, kinds r = R ∧ Expr.erase e = x ∧ ∀ q, suffixes nested e r = .ok q →
      ∃ p, operand nested s = .ok p ∧ p.rest = q.rest ∧ p.value = q.value := by
  -- the phrase grows at its end and the reader goes forward, so what it makes of the rest is left open as `q`
  induction hT generalizing R with
  | primary hp =>
    obtain ⟨e, he, heR, rfl⟩ := (reads_primary hn hb).complete _ _ _ _ hs hp (settled_zero R)
    refine ⟨e.value, e.rest, heR, rfl, fun q hq => ?_⟩
    simp [operand, he, hq, ok_bind, pure_eq]
  | call _ hA ih =>
    rw [List.append_assoc, List.cons_append, List.append_assoc] at hs
    obtain ⟨e, r, hr, rfl, ih⟩ := ih _ hs
    obtain ⟨span, rest, rfl, h⟩ := kinds_eq_cons hr
    obtain ⟨args, ha, haR, rfl⟩ := series_complete hn hb (by simp [closing]) hA h
    refine ⟨.call (e.span.through args.value.2) e args.value.1, args.rest, haR, by simp, fun q hq => ?_⟩
    refine ih ⟨q.value, q.rest, ?_⟩ ?_
    · have := q.shorter; have := args.shorter
      simp only [List.length_cons]; omega
    · rw [suffixes]
      simp [ha, hq, ok_bind, pure_eq]
  | @method _ _ _ _ f _ _ hA ih =>
    rw [List.append_assoc, List.cons_append, List.cons_append, List.cons_append, List.append_assoc] at hs
    obtain ⟨e, r, hr, rfl, ih⟩ := ih _ hs
    obtain ⟨span, r', rfl, h₁⟩ := kinds_eq_cons hr
    obtain ⟨span', r'', rfl, h₂⟩ := kinds_eq_cons h₁
    obtain ⟨span'', rest, rfl, h₃⟩ := kinds_eq_cons h₂
    obtain ⟨args, ha, haR, rfl⟩ := series_complete hn hb (by simp [closing]) hA h₃
    refine ⟨.call (e.span.through args.value.2) (.name span' f) (e :: args.value.1), args.rest, haR, by simp,
      fun q hq => ?_⟩
    refine ih ⟨q.value, q.rest, ?_⟩ ?_
    · have := q.shorter; have := args.shorter
      simp only [List.length_cons]; omega
    · rw [suffixes]
      simp [ha, hq, ok_bind, pure_eq]
  | index _ hS ih =>
    rw [List.append_assoc, List.cons_append, List.append_assoc] at hs
    obtain ⟨e, r, hr, rfl, ih⟩ := ih _ hs
    obtain ⟨span, rest, rfl, h⟩ := kinds_eq_cons hr
    obtain ⟨i, hi, hiR, rfl⟩ := hn.complete _ _ _ _ h hS (by simp [Symbol.reach])
    obtain ⟨c, hc, hcR⟩ := expect_complete hiR
    refine ⟨.index (e.span.through c.value) e i.value, c.rest, hcR, by simp, fun q hq => ?_⟩
    refine ih ⟨q.value, q.rest, ?_⟩ ?_
    · have := q.shorter; have := c.shorter; have := i.shorter
      simp only [List.length_cons]; omega
    · rw [suffixes]
      simp [hi, hc, hq, ok_bind, pure_eq]

/-- Where no suffix follows, the operand is finished. -/
private theorem suffixes_of_settled {e : SpannedExpr} {s : List SpannedToken} (hs : Settled 1 (kinds s)) :
    suffixes nested e s = .ok ⟨e, s, Nat.lt_succ_self _⟩ := by
  rw [suffixes]
  · rfl
  all_goals
    intros
    subst_vars
    simp [Symbol.reach] at hs

theorem sound_operand (hn : Sound Expr.erase nested E) : Sound Expr.erase (operand nested) (Member E) := by
  intro s p h
  unfold operand at h
  obtain ⟨e, he, h⟩ := bind_eq_ok.1 h
  obtain ⟨more, hm, h⟩ := bind_eq_ok.1 h
  cases h
  obtain ⟨U, hU, hp⟩ := sound_primary hn _ _ he
  obtain ⟨j, T, hT, hj⟩ := suffixes_sound hn _ _ _ hm 0 U (.primary hp)
  exact ⟨U ++ T, by simp [hU, hT], j, hj⟩

private theorem reads_operand (hn : Reads 7 Expr.erase nested E) (hb : Begins opens E) :
    Reads 1 Expr.erase (operand nested) (Member E) where
  sound := sound_operand hn.sound
  complete s T R x hs hT hR := by
    obtain ⟨k, hk⟩ := hT
    obtain ⟨e, r, rfl, rfl, h⟩ := operand_of_suffixed hn hb hk s R hs
    obtain ⟨p, hp, hrest, hvalue⟩ := h _ (suffixes_of_settled hR)
    exact ⟨p, hp, by rw [hrest], by rw [hvalue]⟩

end Operands

/-! ### Signs -/

theorem mem_signs_iff {y : Symbol} {op : UnaryOp} : (y, op) ∈ signs ↔ sign? y = some op := by
  cases y <;> cases op <;> decide

private theorem leadingSign_of_leads {s : List SpannedToken} {t : Token} {R : List Token} (h : kinds s = t :: R)
    (ht : leads t = true) : leadingSign? s = none := by
  obtain ⟨span, rest, rfl, -⟩ := kinds_eq_cons h
  unfold leads at ht
  split at ht <;> first | rfl | cases ht

private theorem isSign_iff {y : Symbol} {op : UnaryOp} (hy : (y, op) ∈ signs) {t : SpannedToken} :
    isSign op t = true ↔ t.1 = .symbol y := by
  obtain ⟨t, span⟩ := t
  rw [mem_signs_iff] at hy
  have inj : ∀ z, sign? z = some op → z = y := by
    intro z hz
    cases op <;> cases y <;> cases hy <;> cases z <;> first | rfl | cases hz
  constructor
  · intro h
    cases t with
    | symbol z => rw [inj z (of_decide_eq_true h)]
    | literal | name | reserved => simp [isSign, leadingSign?] at h
  · rintro rfl
    simp [isSign, leadingSign?, hy]

/-- What a run of one operator stands for: so many times its symbol. -/
theorem kinds_eq_replicate {y : Symbol} {op : UnaryOp} (hy : (y, op) ∈ signs) (s : List SpannedToken) :
    kinds s = List.replicate (s.takeWhile (isSign op)).length (.symbol y) ++ kinds (s.dropWhile (isSign op)) := by
  induction s with
  | nil => rfl
  | cons t s ih =>
    by_cases ht : isSign op t = true
    · rw [List.takeWhile_cons_of_pos ht, List.dropWhile_cons_of_pos ht, List.length_cons, List.replicate_succ,
        List.cons_append, ← ih, kinds_cons, (isSign_iff hy).1 ht]
    · rw [List.takeWhile_cons_of_neg ht, List.dropWhile_cons_of_neg ht]
      rfl

/-- A run of one operator is taken as a whole, up to the operand behind it. -/
private theorem takeWhile_isSign {y : Symbol} {op : UnaryOp} (hy : (y, op) ∈ signs) {t : Token} (ht : leads t = true)
    (k : Nat) (s : List SpannedToken) (R : List Token) (hs : kinds s = List.replicate k (.symbol y) ++ t :: R) :
    (s.takeWhile (isSign op)).length = k ∧ kinds (s.dropWhile (isSign op)) = t :: R := by
  induction k generalizing s with
  | zero =>
    obtain ⟨span, rest, rfl, rfl⟩ := kinds_eq_cons hs
    have hno : ¬ isSign op (t, span) = true := by
      rw [isSign_iff hy]
      rintro rfl
      cases y <;> simp [leads, signs] at ht hy
    simp [hno]
  | succ k ih =>
    rw [List.replicate_succ, List.cons_append] at hs
    obtain ⟨span, rest, rfl, h⟩ := kinds_eq_cons hs
    have hyes : isSign op (.symbol y, span) = true := (isSign_iff hy).2 rfl
    obtain ⟨hlen, hdrop⟩ := ih rest h
    simp [hyes, hlen, hdrop]

theorem sound_signed {nested : Reader SpannedExpr} {member : Phrase Tree}
    (ho : Sound Expr.erase (operand nested) member) : Sound Expr.erase (signed nested) (Unary member) := by
  intro s p h
  unfold signed at h
  split at h
  · obtain ⟨T, hT, hm⟩ := ho _ _ h
    exact ⟨T, hT, .bare hm⟩
  · rename_i t span rest
    split at h
    · obtain ⟨T, hT, hm⟩ := ho _ _ h
      exact ⟨T, hT, .bare hm⟩
    · rename_i op hop
      simp only at h
      split at h
      · cases h
      · obtain ⟨e, he, h⟩ := bind_eq_ok.1 h
        cases h
        obtain ⟨T, hT, hm⟩ := ho _ _ he
        cases t with
        | symbol y =>
          have hy : (y, op) ∈ signs := mem_signs_iff.2 hop
          have phrase := Unary.signed (rest.takeWhile (isSign op)).length hy hm
          rw [Nat.add_comm _ 1] at phrase
          refine ⟨_, ?_, phrase⟩
          rw [kinds_cons, kinds_eq_replicate hy rest, hT, Nat.add_comm 1, List.replicate_succ, List.cons_append,
            List.cons_append, List.append_assoc]
        | literal | name | reserved => cases hop

private theorem reads_signed {nested : Reader SpannedExpr} {member : Phrase Tree}
    (ho : Reads 1 Expr.erase (operand nested) member) (hb : Begins leads member) :
    Reads 1 Expr.erase (signed nested) (Unary member) where
  sound := sound_signed ho.sound
  complete s T R x hs hT hR := by
    cases hT with
    | bare hm =>
      obtain ⟨t, T', rfl, ht⟩ := hb _ _ hm
      obtain ⟨p, hp, hpR, hpx⟩ := ho.complete _ _ _ _ hs hm hR
      obtain ⟨span, rest, rfl, -⟩ := kinds_eq_cons hs
      have hno : leadingSign? [(t, span)] = none := leadingSign_of_leads (kinds_cons ..) ht
      exact ⟨p, by simp [signed, hno, hp], hpR, hpx⟩
    | @signed y op T e k hy hm =>
      -- the operand begins with no sign, so the run ends where the phrase says
      obtain ⟨t, T', rfl, ht⟩ := hb _ _ hm
      rw [List.replicate_succ, List.cons_append, List.cons_append, List.append_assoc] at hs
      obtain ⟨span, rest, rfl, h⟩ := kinds_eq_cons hs
      obtain ⟨hlen, hdrop⟩ := takeWhile_isSign hy ht k rest _ h
      have hno : leadingSign? (rest.dropWhile (isSign op)) = none := leadingSign_of_leads hdrop ht
      have hyes : leadingSign? [(.symbol y, span)] = some op := mem_signs_iff.1 hy
      obtain ⟨p, hp, hpR, rfl⟩ := ho.complete _ _ _ _ hdrop hm hR
      simp [signed, hyes, hno, hp, hlen, hpR, ok_bind, pure_eq, Nat.add_comm]

/-! ### Operators between operands -/

section Chains

variable {next : Reader SpannedExpr} {operand : Phrase Tree} {level : Level}

theorem mem_operators_iff {y : Symbol} {op : BinaryOp} :
    (y, op) ∈ operators level ↔ operator? level y = some op := by
  constructor
  · intro h
    have all : ∀ p ∈ operators level, operator? level p.1 = some p.2 := by cases level <;> decide
    exact all _ h
  · intro h
    unfold operator? at h
    split at h <;> cases h <;> decide

theorem mem_relations_iff {y : Symbol} {op : BinaryOp} : (y, op) ∈ relations ↔ relation? y = some op := by
  constructor
  · intro h
    have all : ∀ p ∈ relations, relation? p.1 = some p.2 := by decide
    exact all _ h
  · intro h
    unfold relation? at h
    split at h <;> cases h <;> decide

theorem leading_singleton (f : Symbol → Option BinaryOp) (t : SpannedToken) (s : List SpannedToken) :
    leading? f [t] = leading? f (t :: s) := by
  obtain ⟨t, span⟩ := t
  cases t <;> rfl

/-- No operator of a level stands where the level cannot go on. -/
private theorem leading_of_settled {f : Symbol → Option BinaryOp} {k : Nat} (hf : ∀ y op, f y = some op → y.reach ≤ k)
    {s : List SpannedToken} (hs : Settled k (kinds s)) : leading? f s = none := by
  unfold leading?
  split
  · rename_i y _ _
    cases h : f y with
    | none => rfl
    | some op =>
      rw [kinds_cons, settled_symbol] at hs
      have := hf y op h
      omega
  · rfl

private theorem reach_operator (y : Symbol) (op : BinaryOp) (h : operator? level y = some op) :
    y.reach ≤ level.rank :=
  Nat.le_of_eq (reach_of_mem_operators (mem_operators_iff.2 h))

private theorem reach_relation (y : Symbol) (op : BinaryOp) (h : relation? y = some op) : y.reach ≤ 4 :=
  Nat.le_of_eq (reach_of_mem_relations (mem_relations_iff.2 h))

theorem following_sound (hn : Sound Expr.erase next operand) (s) (p)
    (h : following next level s = .ok p) : ∃ T, kinds s = T ++ kinds p.rest ∧
      Following operand (operators level) T (p.value.map (Prod.map id Expr.erase)) := by
  fun_induction following next level s with
  | case1 =>
    cases h
    exact ⟨[], rfl, .nil⟩
  | case2 t rest hop =>
    cases h
    exact ⟨[], rfl, .nil⟩
  | case3 t rest op hop ih =>
    obtain ⟨e, he, h⟩ := bind_eq_ok.1 h
    obtain ⟨more, hm, h⟩ := bind_eq_ok.1 h
    cases h
    obtain ⟨T, hT, ho⟩ := hn _ _ he
    obtain ⟨S, hS, hf⟩ := ih e more hm
    obtain ⟨t, span⟩ := t
    cases t with
    | symbol y => exact ⟨_, by simp [hT, hS], .cons (mem_operators_iff.2 hop) ho hf⟩
    | literal | name | reserved => cases hop

private theorem settled_following {k : Nat} (hk : k < level.rank) {S R : List Token} {es : List (BinaryOp × Tree)}
    (h : Following operand (operators level) S es) (hR : Settled level.rank R) : Settled k (S ++ R) := by
  cases h with
  | nil => exact hR.of_le (Nat.le_of_lt hk)
  | cons hy =>
    rw [List.cons_append, settled_symbol, reach_of_mem_operators hy]
    exact hk

private theorem following_complete {k : Nat} (hn : Reads k Expr.erase next operand) (hk : k < level.rank)
    {S R : List Token} {es : List (BinaryOp × Tree)} (h : Following operand (operators level) S es)
    (hR : Settled level.rank R) (s : List SpannedToken) (hs : kinds s = S ++ R) :
    ∃ p, following next level s = .ok p ∧ kinds p.rest = R ∧ p.value.map (Prod.map id Expr.erase) = es := by
  induction h generalizing s with
  | nil =>
    rw [List.nil_append] at hs
    subst hs
    cases s with
    | nil => exact ⟨⟨[], [], Nat.lt_succ_self _⟩, by rw [following]; rfl, rfl, rfl⟩
    | cons t s =>
      -- nothing that goes on with the chain follows
      have hno : leading? (operator? level) [t] = none := by
        rw [leading_singleton _ t s]
        exact leading_of_settled reach_operator hR
      rw [following]
      simp [hno, pure_eq]
  | @cons y op T S e es hy ho hf ih =>
    rw [List.cons_append, List.append_assoc] at hs
    obtain ⟨span, rest, rfl, h⟩ := kinds_eq_cons hs
    obtain ⟨e, he, heR, rfl⟩ := hn.complete _ _ _ _ h ho (settled_following hk hf hR)
    obtain ⟨more, hm, hmR, rfl⟩ := ih e.rest heR
    have hyes : leading? (operator? level) [(.symbol y, span)] = some op := mem_operators_iff.1 hy
    rw [following]
    simp [hyes, he, hm, hmR, ok_bind, pure_eq]

theorem sound_run (level : Level) (hn : Sound Expr.erase next operand) :
    Sound Expr.erase (run next level) (Run operand level) := by
  intro s p h
  unfold run at h
  obtain ⟨first, hf, h⟩ := bind_eq_ok.1 h
  obtain ⟨more, hm, h⟩ := bind_eq_ok.1 h
  cases h
  obtain ⟨T, hT, ho⟩ := hn _ _ hf
  obtain ⟨S, hS, hfol⟩ := following_sound hn _ _ hm
  -- a lone operand leaves no node
  cases hv : more.value with
  | nil =>
    rw [hv] at hfol
    cases hfol
    exact ⟨T, by simpa [hS] using hT, .lone ho⟩
  | cons o os =>
    rw [hv] at hfol
    exact ⟨T ++ S, by simp [hT, hS], by simpa [chained] using .chain ho hfol⟩

private theorem reads_run (level : Level) {k : Nat} (hn : Reads k Expr.erase next operand) (hk : k < level.rank) :
    Reads level.rank Expr.erase (run next level) (Run operand level) where
  sound := sound_run level hn.sound
  complete s T R x hs hT hR := by
    cases hT with
    | lone ho =>
      obtain ⟨first, hf, hfR, rfl⟩ := hn.complete _ _ _ _ hs ho (hR.of_le (Nat.le_of_lt hk))
      obtain ⟨more, hm, hmR, hv⟩ := following_complete hn hk .nil hR first.rest hfR
      rw [List.map_eq_nil_iff] at hv
      simp [run, hf, hm, hmR, hv, chained, ok_bind, pure_eq]
    | chain ho hfol =>
      rw [List.append_assoc] at hs
      obtain ⟨first, hf, hfR, rfl⟩ := hn.complete _ _ _ _ hs ho (settled_following hk hfol hR)
      obtain ⟨more, hm, hmR, hv⟩ := following_complete hn hk hfol hR first.rest hfR
      obtain ⟨⟨op, second⟩, rest, hmore, ⟨⟩, rfl⟩ := List.map_eq_cons_iff.1 hv
      simp [run, hf, hm, hmR, hmore, chained, ok_bind, pure_eq]

theorem sound_comparison (hn : Sound Expr.erase next operand) :
    Sound Expr.erase (comparison next) (Relation operand) := by
  intro s p h
  unfold comparison at h
  obtain ⟨l, hl, h⟩ := bind_eq_ok.1 h
  obtain ⟨T, hT, hoT⟩ := hn _ _ hl
  split at h
  · cases h
    exact ⟨T, hT, .lone hoT⟩
  · rename_i t rest hrest
    split at h
    · cases h
      exact ⟨T, hT, .lone hoT⟩
    · rename_i op hop
      obtain ⟨r, hr, h⟩ := bind_eq_ok.1 h
      split at h
      · cases h
      · cases h
        obtain ⟨S, hS, hoS⟩ := hn _ _ hr
        obtain ⟨t, span⟩ := t
        cases t with
        | symbol y =>
          refine ⟨_, ?_, .compare hoT (mem_relations_iff.2 hop) hoS⟩
          simp [hT, hrest, hS]
        | literal | name | reserved => cases hop

private theorem reads_comparison (hn : Reads 3 Expr.erase next operand) :
    Reads 4 Expr.erase (comparison next) (Relation operand) where
  sound := sound_comparison hn.sound
  complete s T R x hs hT hR := by
    cases hT with
    | lone ho =>
      -- a comparison behind the operand would go on with it, which `hR` excludes
      obtain ⟨l, hl, hlR, rfl⟩ := hn.complete _ _ _ _ hs ho (hR.of_le (by omega))
      refine ⟨l, ?_, hlR, rfl⟩
      rw [comparison, hl, ok_bind]
      split
      · rfl
      · rename_i t rest hrest
        have hno : leading? relation? [t] = none := by
          rw [leading_singleton _ t rest, ← hrest]
          exact leading_of_settled reach_relation (hlR ▸ hR)
        rw [hno]
        rfl
    | @compare y op T S l r hTl hy hSr =>
      rw [List.append_assoc, List.cons_append] at hs
      obtain ⟨l, hl, hlR, rfl⟩ := hn.complete _ _ _ _ hs hTl (by rw [settled_symbol, reach_of_mem_relations hy]; omega)
      obtain ⟨span, rest, hrest, h⟩ := kinds_eq_cons hlR
      obtain ⟨r, hr, hrR, rfl⟩ := hn.complete _ _ _ _ h hSr (hR.of_le (by omega))
      have hyes : leading? relation? [(.symbol y, span)] = some op := mem_relations_iff.1 hy
      have hno : leading? relation? r.rest = none := leading_of_settled reach_relation (hrR ▸ hR)
      have shorter : r.rest.length < s.length := by
        have := r.shorter; have := l.shorter
        rw [hrest, List.length_cons] at this
        omega
      refine ⟨⟨.relation (l.value.span.through r.value.span) op l.value r.value, r.rest, shorter⟩, ?_, hrR, by simp⟩
      rw [comparison, hl, ok_bind]
      split
      · rename_i hnil
        rw [hrest] at hnil
        cases hnil
      · rename_i t rest' hcons
        rw [hrest] at hcons
        cases hcons
        simp only [hyes, hr, ok_bind]
        rw [hno]
        rfl

end Chains

/-! ### Expressions -/

theorem sound_disjunction {nested : Reader SpannedExpr} {member : Phrase Tree}
    (ho : Sound Expr.erase (operand nested) member) : Sound Expr.erase (disjunction nested) (Disjunction member) :=
  sound_run _ (sound_run _ (sound_comparison (sound_run _ (sound_run _ (sound_signed ho)))))

private theorem reads_disjunction {nested : Reader SpannedExpr} {member : Phrase Tree}
    (ho : Reads 1 Expr.erase (operand nested) member) (hb : Begins leads member) :
    Reads 6 Expr.erase (disjunction nested) (Disjunction member) := by
  have multiplicative := reads_run .multiplicative (reads_signed ho hb) (by decide)
  have additive := reads_run .additive multiplicative (by decide)
  have and := reads_run .and (reads_comparison additive) (by decide)
  exact reads_run .or and (by decide)

private theorem sound_conditional {nested : Reader SpannedExpr} {member E : Phrase Tree}
    (hd : Sound Expr.erase (disjunction nested) (Disjunction member)) (hn : Sound Expr.erase nested E) :
    Sound Expr.erase (conditional nested) (Conditional member E) := by
  intro s p h
  unfold conditional at h
  obtain ⟨c, hc, h⟩ := bind_eq_ok.1 h
  obtain ⟨C, hC, hPc⟩ := hd _ _ hc
  split at h
  · rename_i span rest hrest
    obtain ⟨y, hy, h⟩ := bind_eq_ok.1 h
    obtain ⟨colon, hcolon, h⟩ := bind_eq_ok.1 h
    obtain ⟨n, hn', h⟩ := bind_eq_ok.1 h
    cases h
    obtain ⟨Y, hY, hPy⟩ := hd _ _ hy
    obtain ⟨N, hN, hPn⟩ := hn _ _ hn'
    exact ⟨C ++ .symbol .question :: (Y ++ .symbol .colon :: N), by simp [hC, hrest, hY, expect_sound hcolon, hN],
      by simpa using .ternary hPc hPy hPn⟩
  · cases h
    exact ⟨C, hC, .plain hPc⟩

private theorem reads_conditional {nested : Reader SpannedExpr} {member E : Phrase Tree}
    (hd : Reads 6 Expr.erase (disjunction nested) (Disjunction member)) (hn : Reads 7 Expr.erase nested E) :
    Reads 7 Expr.erase (conditional nested) (Conditional member E) where
  sound := sound_conditional hd.sound hn.sound
  complete s T R x hs hT hR := by
    cases hT with
    | plain hP =>
      obtain ⟨c, hc, hcR, rfl⟩ := hd.complete _ _ _ _ hs hP (hR.of_le (by omega))
      refine ⟨c, ?_, hcR, rfl⟩
      rw [conditional, hc, ok_bind]
      split
      · -- no question mark follows, since nothing goes on with the expression
        rename_i hrest
        rw [← hcR, hrest, kinds_cons, settled_symbol] at hR
        exact absurd hR (by decide)
      · rfl
    | ternary hPc hPy hPn =>
      rw [List.append_assoc, List.cons_append, List.append_assoc, List.cons_append] at hs
      obtain ⟨c, hc, hcR, rfl⟩ := hd.complete _ _ _ _ hs hPc (by simp [Symbol.reach])
      obtain ⟨span, rest, hrest, h⟩ := kinds_eq_cons hcR
      obtain ⟨y, hy, hyR, rfl⟩ := hd.complete _ _ _ _ h hPy (by simp [Symbol.reach])
      obtain ⟨colon, hcolon, hcolonR⟩ := expect_complete hyR
      obtain ⟨n, hn', hnR, rfl⟩ := hn.complete _ _ _ _ hcolonR hPn hR
      have shorter : n.rest.length < s.length := by
        have := n.shorter; have := colon.shorter; have := y.shorter; have := c.shorter
        rw [hrest, List.length_cons] at this
        omega
      refine ⟨⟨.ternary (c.value.span.through n.value.span) c.value y.value n.value, n.rest, shorter⟩, ?_, hnR,
        by simp⟩
      rw [conditional, hc, ok_bind]
      split
      · rename_i rest' hcons
        rw [hrest] at hcons
        cases hcons
        simp only [hy, hcolon, hn', ok_bind]
        rfl
      · rename_i hne
        exact absurd hrest (hne _ _)

/-- The reader of expressions reads the expressions that nest as deep as it is allowed to go. -/
theorem reads_exprWithin (limit depth : Nat) : Reads 7 Expr.erase (exprWithin limit depth) (Expression depth) := by
  induction depth with
  | zero =>
    refine ⟨fun s p h => ?_, fun s T R x _ hT => hT.elim⟩
    cases h
  | succ depth ih =>
    have hm := reads_operand ih (begins_expression depth)
    exact reads_conditional (reads_disjunction hm begins_member) ih

end Parser

/-- Reading succeeds exactly on the expressions that nest within the limit. -/
theorem parseTokens_eq_ok_iff {limit : Nat} {tokens : List SpannedToken} {t : Tree} :
    (∃ e, parseTokens limit tokens = .ok e ∧ e.erase = t) ↔ Expression limit (kinds tokens) t := by
  have reads := Parser.reads_exprWithin limit limit
  constructor
  · rintro ⟨e, h, rfl⟩
    rw [parseTokens_eq] at h
    split at h
    · rename_i p hp
      split at h
      · rename_i hrest
        cases h
        obtain ⟨T, hT, hE⟩ := reads.sound _ _ hp
        rw [List.isEmpty_iff.1 hrest, kinds_nil, List.append_nil] at hT
        exact hT ▸ hE
      · cases h
    · cases h
  · intro hE
    obtain ⟨p, hp, hrest, rfl⟩ := reads.complete tokens _ [] t (List.append_nil _).symm hE settled_nil
    have : p.rest = [] := List.map_eq_nil_iff.1 hrest
    exact ⟨p.value, by simp [parseTokens_eq, hp, this], rfl⟩

/-- The tokens of an expression spell one tree only, however deep it may nest. -/
theorem expression_unique {m n : Nat} {T : List Token} {t u : Tree} (ht : Expression m T t) (hu : Expression n T u) :
    t = u := by
  obtain ⟨tokens, rfl⟩ := exists_kinds T
  obtain ⟨e, he, rfl⟩ := parseTokens_eq_ok_iff.2 (expression_within (Nat.le_max_left m n) _ _ (Nat.le_refl _) ht)
  obtain ⟨f, hf, rfl⟩ := parseTokens_eq_ok_iff.2 (expression_within (Nat.le_max_right m n) _ _ (Nat.le_refl _) hu)
  rw [he] at hf
  cases hf
  rfl

/-- The expressions that reading accepts, with their trees, are those of the grammar, and the grammar is unambiguous:
for every bound on the nesting and all tokens, reading succeeds with a tree just where the grammar derives this tree
with expressions nested within the bound, and no tokens spell two trees. -/
theorem parseTokens_recognises_grammar :
    (∀ (limit : Nat) (tokens : List SpannedToken) (t : Tree),
      (∃ e, parseTokens limit tokens = .ok e ∧ e.erase = t) ↔ Expression limit (kinds tokens) t) ∧
    ∀ (T : List Token) (t u : Tree), (∃ n, Expression n T t) → (∃ n, Expression n T u) → t = u :=
  ⟨fun _ _ _ => parseTokens_eq_ok_iff, fun _ _ _ ⟨_, ht⟩ ⟨_, hu⟩ => expression_unique ht hu⟩

end ExprLang
