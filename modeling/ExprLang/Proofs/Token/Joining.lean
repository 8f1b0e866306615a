import ExprLang.Proofs.Token.Marks

/-!
# One rule for all signs

The sign in front of the least integer is joined while the text is scanned, and all others afterwards. Both together
are one rule, which joins signs to marks (`settle_joinBy`): integers are read up to the magnitude of the least one, each
minus sign that touches a number and has no operand in front is joined to it, and the magnitude of the least integer is
an error where no sign has been joined to it. Which tokens end an operand is a matter of the grammar
(`Grammar.endsOperand_iff`).
-/

namespace ExprLang

variable {marks rest : List SpannedMark} {m x : Mark} {n : Nat} {s r : Span} {t : Token} {last : Option Token}
  {tokens : List SpannedToken} {ended : Bool}

/-! ### Marks of the scanner -/

/-- Integers are marks of their magnitude, up to that of the least integer. -/
def Mark.IsRaw : Mark → Prop
  | magnitude n => n ≤ Lexeme.leastMagnitude
  | token (.literal (.int _)) => False
  | _ => True

private theorem isRaw_ofWord (w : String) : (Mark.token (.ofWord w)).IsRaw := by
  unfold Token.ofWord
  split_ifs <;> trivial

/-- The scanner reads integers from integer lexemes only. -/
private theorem isRaw_of_head {cs : List Char} (hinteger : ∀ base n, Lexeme.recognise cs ≠ some (.integer base, n))
    (h : Scan.head cs = .token t n) : (Mark.token t).IsRaw := by
  cases Scan.tokenOf_head h with
  | integer hrec => exact absurd hrec (hinteger _ _)
  | word _ => exact isRaw_ofWord _
  | _ => trivial

theorem Mark.isRaw_head {cs : List Char} (h : Mark.head cs = (some m, n)) : m.IsRaw := by
  unfold Mark.head at h
  split at h
  · cases h
    unfold ofInteger
    split
    · split
      · assumption
      · trivial
    · trivial
  · rename_i hinteger
    split at h
    · cases h
    · rename_i hhead
      cases h
      exact isRaw_of_head hinteger hhead
    · cases h
      trivial

theorem isRaw_of_mem_marksFrom {cs : List Char} (h : (m, s) ∈ marksFrom 0 cs) : m.IsRaw := by
  obtain ⟨_, _, _, _, _, hhead⟩ := exists_slice_of_mem_marksFrom [] cs h
  exact Mark.isRaw_head hhead

/-! ### Joining in two steps -/

/-- A sign stays in front of a token that it cannot be joined to. -/
theorem joinSigns_keep {more : List SpannedToken} (h : t = .symbol .minus → last.any Token.endsOperand = false →
      ∀ u ∈ more.head?, s.stop = u.2.start → ∀ l, u.1 = .literal l → l.negated? = none) :
    Lexer.joinSigns last ((t, s) :: more) = (t, s) :: Lexer.joinSigns (some t) more := by
  cases more with
  | nil => rfl
  | cons u more =>
    obtain ⟨u, r⟩ := u
    rw [Lexer.joinSigns.eq_def]
    dsimp only
    split
    · rename_i l
      have hnone : (if last.any Token.endsOperand = true ∨ s.stop ≠ r.start then none else l.negated?) = none := by
        split
        · rfl
        · rename_i hcond
          rw [not_or, Bool.not_eq_true, not_not] at hcond
          exact h rfl hcond.1 _ rfl hcond.2 l rfl
      rw [hnone]
    · rfl

/-- Once the least integer is joined, the first token is that of the first mark, or the least integer. -/
private theorem head_of_settle (h : settle (joinBy Mark.least? ended ((x, r) :: rest)) = .ok tokens) :
    ∃ u more, tokens = u :: more ∧ u.2.start = r.start ∧
      (x.token? = some u.1 ∨ u.1 = .literal (.int Int64.minValue)) := by
  have hkeep {marks : List SpannedMark} (h : settle ((x, r) :: marks) = .ok tokens) :
      ∃ u more, tokens = u :: more ∧ u.2.start = r.start ∧
        (x.token? = some u.1 ∨ u.1 = .literal (.int Int64.minValue)) := by
    obtain ⟨u, more, hu, -, rfl⟩ := settle_eq_ok h
    exact ⟨(u, r), more, rfl, rfl, .inl hu⟩
  cases rest with
  | nil => exact hkeep h
  | cons u rest =>
    rw [joinBy] at h
    split at h
    · rename_i y hy
      split at hy
      · obtain ⟨-, rfl⟩ := Mark.least?_eq_some_iff.mp hy
        obtain ⟨t, more, ht, -, rfl⟩ := settle_eq_ok h
        cases ht
        exact ⟨_, more, rfl, rfl, .inr rfl⟩
      · cases hy
    · exact hkeep h

private theorem negated?_ofNat (hn : n < Lexeme.leastMagnitude) :
    (Literal.int (Int64.ofNat n)).negated? = some (.int (Int64.ofInt (-n))) := by
  have hlt : n < 2 ^ 63 := hn
  have hne : Int64.ofNat n ≠ Int64.minValue := by
    rw [← Int64.toInt_inj.ne, Int64.toInt_ofNat_of_lt hlt]
    have hleast : Int64.minValue.toInt = -2 ^ 63 := by decide
    omega
  have hneg : -Int64.ofNat n = Int64.ofInt (-n) := by
    rw [Int64.ofInt_neg, Int64.ofInt_eq_ofNat]
  rw [Literal.negated?, if_neg hne, hneg]

/-- A sign is joined to the least integer while scanning, and to the token of any other number afterwards. -/
private theorem least?_or_negated? {y : Mark} (hx : x.IsRaw) (h : x.negated? = some y) : x.least? = some y ∨
    ∃ l k, x.token? = some (.literal l) ∧ l.negated? = some k ∧ y = .token (.literal k) := by
  unfold Mark.negated? at h
  split at h
  · rename_i n
    cases h
    have hle : n ≤ Lexeme.leastMagnitude := hx
    by_cases hn : n = Lexeme.leastMagnitude
    · left
      subst hn
      rw [Mark.least?, if_pos rfl]
      congr 4
    · right
      have hlt : n < Lexeme.leastMagnitude := by omega
      exact ⟨_, _, if_pos hlt, negated?_ofNat hlt, rfl⟩
  · cases h
    exact .inr ⟨_, _, rfl, rfl, rfl⟩
  · cases h

/-- A sign that is joined to no mark is joined to none of its tokens. -/
private theorem negated?_of_token? {l : Literal} (hx : x.IsRaw) (h : x.negated? = none)
    (hl : x.token? = some (.literal l)) : l.negated? = none := by
  cases x with
  | token t =>
    cases hl
    cases l with
    | int k => exact hx.elim
    | float f => cases h
    | _ => rfl
  | magnitude n => cases h
  | fault => cases hl

private theorem least?_of_negated? (h : x.negated? = none) : x.least? = none := by
  rw [Option.eq_none_iff_forall_ne_some]
  intro y hy
  obtain ⟨rfl, -⟩ := Mark.least?_eq_some_iff.mp hy
  cases h

private theorem map_settle_token (ht : m.token? = some t)
    (hkeep : ∀ more, settle rest = .ok more →
      Lexer.joinSigns last ((t, s) :: more) = (t, s) :: Lexer.joinSigns (some t) more) :
    (settle ((m, s) :: rest)).map (Lexer.joinSigns last) =
      ((settle rest).map (Lexer.joinSigns (some t))).map ((t, s) :: ·) := by
  rw [settle_token ht]
  cases hmore : settle rest with
  | error e => rfl
  | ok more =>
    have := hkeep more hmore
    simp only [Except.map, this]

/-- A sign is joined. -/
private theorem settle_join {y : Mark} (hm : m.isMinus = true) (hlast : last.any Token.endsOperand = false)
    (hs : s.stop = r.start) (hx : x.IsRaw) (hy : x.negated? = some y)
    (ih : ∀ last : Option Token, last.any Token.endsOperand = true →
      (settle (joinBy Mark.least? true rest)).map (Lexer.joinSigns last) = settle (joinBy Mark.negated? true rest)) :
    (settle (joinBy Mark.least? false ((m, s) :: (x, r) :: rest))).map (Lexer.joinSigns last) =
      settle ((y, s.through r) :: joinBy Mark.negated? true rest) := by
  obtain rfl := Mark.isMinus_iff.mp hm
  rcases least?_or_negated? hx hy with hleast | ⟨l, k, hl, hk, rfl⟩
  · -- the scanner has joined the sign already
    obtain ⟨-, rfl⟩ := Mark.least?_eq_some_iff.mp hleast
    rw [joinBy_join rfl hs hleast, map_settle_token rfl, ih _ rfl, settle_token rfl]
    intro more _
    exact joinSigns_keep nofun
  · have hxminus : x.isMinus = true → False := by
      intro h
      rw [Mark.isMinus_iff.mp h] at hl
      cases hl
    have hends : x.endsOperand = true := Mark.endsOperand_of_token? hl
    have hnone : x.least? = none := Mark.least?_of_token? hl
    rw [joinBy_cons, joinBy_cons fun _ _ h => (hxminus h).elim, hends]
    · rw [settle_token rfl, settle_token hl, settle_token rfl, ← ih (some (.literal k)) rfl]
      cases settle (joinBy Mark.least? true rest) with
      | error e => rfl
      | ok more =>
        simp only [Except.map]
        rw [Lexer.joinSigns_sign hk hs hlast]
    · rintro _ ⟨⟩ - - -
      exact hnone

/-- No sign is joined to the second mark. -/
private theorem settle_keep
    (hjoin : (if m.isMinus = true ∧ last.any Token.endsOperand = false ∧ s.stop = r.start then x.negated? else none) =
      none) (hx : x.IsRaw)
    (ih : ∀ last : Option Token, last.any Token.endsOperand = m.endsOperand →
      (settle (joinBy Mark.least? m.endsOperand ((x, r) :: rest))).map (Lexer.joinSigns last) =
        settle (joinBy Mark.negated? m.endsOperand ((x, r) :: rest))) :
    (settle (joinBy Mark.least? (last.any Token.endsOperand) ((m, s) :: (x, r) :: rest))).map (Lexer.joinSigns last) =
      settle ((m, s) :: joinBy Mark.negated? m.endsOperand ((x, r) :: rest)) := by
  have hnegated (hm : m.isMinus = true) (hlast : last.any Token.endsOperand = false) (hs : s.stop = r.start) :
      x.negated? = none := by
    rwa [if_pos ⟨hm, hlast, hs⟩] at hjoin
  rw [joinBy_cons]
  · cases ht : m.token? with
    | none =>
      rw [settle_fault ht, settle_fault ht]
      rfl
    | some t =>
      have hends := Mark.endsOperand_of_token? ht
      rw [map_settle_token ht, ih (some t) hends.symm, settle_token ht]
      intro more hmore
      refine joinSigns_keep fun hminus hlast => ?_
      -- the first of the other tokens is at most the least integer, to which no further sign is joined
      obtain ⟨u, more, rfl, hstart, hu⟩ := head_of_settle hmore
      rintro _ ⟨⟩ hs l hl
      subst hminus
      obtain rfl := Mark.eq_minus_of_token? ht
      rcases hu with hu | hu
      · rw [hl] at hu
        exact negated?_of_token? hx (hnegated rfl hlast (hs.trans hstart)) hu
      · rw [hl] at hu
        cases hu
        rfl
  · rintro _ ⟨⟩ hm hlast hs
    exact least?_of_negated? (hnegated hm hlast hs)

/-- Joining the least integer first and all other signs afterwards is joining all signs by one rule. -/
theorem settle_joinBy (hraw : ∀ u ∈ marks, u.1.IsRaw) :
    (settle (joinBy Mark.least? (last.any Token.endsOperand) marks)).map (Lexer.joinSigns last) =
      settle (joinBy Mark.negated? (last.any Token.endsOperand) marks) := by
  generalize hended : last.any Token.endsOperand = ended
  -- the token in front changes from mark to mark
  fun_induction joinBy Mark.negated? ended marks generalizing last with
  | case1 => rfl
  | case2 ended m =>
    obtain ⟨m, s⟩ := m
    rw [joinBy]
    cases ht : m.token? with
    | none =>
      rw [settle_fault ht]
      rfl
    | some t =>
      rw [settle_token ht]
      rfl
  | case3 ended m s x r rest y hjoin ih =>
    split at hjoin
    · rename_i hcond
      obtain ⟨hm, rfl, hs⟩ := hcond
      refine settle_join hm hended hs (hraw (x, r) (by simp)) hjoin fun last hlast => ?_
      exact ih (fun u hu => hraw u (by simp [hu])) hlast
    · cases hjoin
  | case4 ended m s x r rest hjoin ih =>
    subst hended
    refine settle_keep hjoin (hraw (x, r) (by simp)) fun last hlast => ?_
    exact ih (fun u hu => hraw u (List.mem_cons_of_mem _ hu)) hlast

/-! ### Whole texts -/

/-- What the scanner and the joining of signs behind it make of a text are the tokens of its marks. -/
theorem mapError_joinSigns (cs : List Char) :
    ((Lexer.scanFrom 0 [] cs).map (Lexer.joinSigns none)).mapError LexError.span =
      settle (joinBy Mark.negated? false (marksFrom 0 cs)) := by
  have hscan : (Lexer.scanFrom 0 [] cs).mapError LexError.span =
      (settle (joinBy Mark.least? false (marksFrom 0 cs))).map ([] ++ ·) := (scansAsMarks 0 cs []).1 (by simp)
  have hraw : ∀ u ∈ marksFrom 0 cs, u.1.IsRaw := fun u hu => isRaw_of_mem_marksFrom (s := u.2) hu
  have hjoin : (settle (joinBy Mark.least? false (marksFrom 0 cs))).map (Lexer.joinSigns none) =
      settle (joinBy Mark.negated? false (marksFrom 0 cs)) := @settle_joinBy _ none hraw
  rw [← hjoin]
  cases hmarks : settle (joinBy Mark.least? false (marksFrom 0 cs)) with
  | error e =>
    rw [hmarks] at hscan
    cases htokens : Lexer.scanFrom 0 [] cs with
    | error e' =>
      rw [htokens] at hscan
      exact hscan
    | ok tokens =>
      rw [htokens] at hscan
      cases hscan
  | ok tokens =>
    rw [hmarks] at hscan
    cases htokens : Lexer.scanFrom 0 [] cs with
    | error e =>
      rw [htokens] at hscan
      cases hscan
    | ok tokens' =>
      rw [htokens] at hscan
      cases hscan
      rfl

/-- The tokens of a text by one rule for all signs: the text is cut into marks, each minus sign that touches a number
and has no operand in front is joined to it, and the first mark that is no token then is the error. -/
def readUniformly (source : String) : Except Span (List SpannedToken) :=
  settle (joinBy Mark.negated? false (marksFrom 0 source.toList))

/-- Joining some signs while scanning and the others afterwards is the one rule. -/
theorem mapError_lex (source : String) : (lex source).mapError LexError.span = readUniformly source :=
  mapError_joinSigns source.toList

/-- Of two signs in front of the magnitude of the least integer the second one is joined. -/
example : (readUniformly "--0x8000000000000000").toOption.map (List.map fun t => (t.1.text, t.2)) =
    some [("-", ⟨0, 1⟩), ("-9223372036854775808", ⟨1, 20⟩)] := by decide +kernel

end ExprLang
