import ExprLang.Proofs.Token.Extent

/-!
# Lexemes in front of a blank

What a rule matches within a text it matches as well when the end of the input or a blank stands behind the text
(`Within`, `BlankAhead`), since no rule goes on over a blank. So the lexeme recognised within a text does not depend
on what stands behind the text, if that is set off by a blank (`recognise_append`).
-/

namespace ExprLang

namespace Lexeme

open Digits (isDigit runLength)

variable {cs u r r' : List Char} {l : Lexeme} {n : Nat}

/-! ### Blanks -/

/-- The text ends or goes on with a blank. -/
def BlankAhead (rest : List Char) : Prop := ∀ c ∈ rest.head?, isBlank c = true

/-- The blanks. -/
def blankChars : List Char := [' ', '\t', '\n', '\r', '\x0c']

theorem mem_blankChars {c : Char} (h : isBlank c = true) : c ∈ blankChars := by
  simp only [isBlank, Bool.or_eq_true, decide_eq_true_eq] at h
  rcases h with (((rfl | rfl) | rfl) | rfl) | rfl <;> decide

/-- What holds of the blanks can be checked for each of them. -/
@[elab_as_elim]
theorem of_isBlank {p : Char → Prop} [DecidablePred p] {c : Char} (h : isBlank c = true)
    (hp : blankChars.all (fun c => p c) = true) : p c := of_decide_eq_true (List.all_eq_true.mp hp c (mem_blankChars h))

theorem BlankAhead.head (h : BlankAhead r') {p : Char → Prop} (hp : ∀ d ∈ blankChars, p d) : ∀ c ∈ r'.head?, p c :=
  fun c hc => hp c (mem_blankChars (h c hc))

/-- What holds of the empty text, and of the texts that begin with a blank whatever follows it. -/
@[elab_as_elim]
theorem BlankAhead.of_forall {p : List Char → Prop} (h : BlankAhead r') (hnil : p [])
    (hcons : ∀ d ∈ blankChars, ∀ ds, p (d :: ds)) : p r' := by
  cases r' with
  | nil => exact hnil
  | cons c ds => exact h.head (p := fun d => p (d :: ds)) (fun d hd => hcons d hd ds) c rfl

/-- The match is not longer than the text `u`. -/
def Within (u : List Char) (x : Option (Lexeme × Nat)) : Prop := ∀ l n, x = some (l, n) → n ≤ u.length

/-- What would be longer than the text does not match. -/
private theorem Within.eq_none {x : Option (Lexeme × Nat)} (hw : Within u x)
    (h : ∀ l n, x = some (l, n) → u.length < n) : x = none := by
  rw [Option.eq_none_iff_forall_ne_some]
  rintro ⟨l, n⟩ hx
  exact absurd (hw l n hx) (Nat.not_le.mpr (h l n hx))

/-! ### Numbers -/

theorem length_takeWhile_append {p : Char → Bool} (hp : ∀ c ∈ r'.head?, p c = false) :
    ((u ++ r').takeWhile p).length = min u.length ((u ++ r).takeWhile p).length := by
  induction u with
  | nil =>
    cases r' with
    | nil => simp
    | cons c r' => simp [hp c rfl]
  | cons c u ih =>
    by_cases hc : p c = true
    · simp only [List.cons_append, List.takeWhile_cons_of_pos hc, List.length_cons, ih]
      omega
    · simp [hc]

private theorem runLength_append (hr : BlankAhead r') (base : Nat) :
    runLength base (u ++ r') = min u.length (runLength base (u ++ r)) := by
  refine length_takeWhile_append (hr.head ?_)
  simp [blankChars, isDigit, Digits.digit?]

/-- A text that reaches into `u` only goes on in the same way when what stands behind `u` is changed. -/
private theorem head?_drop_append (h : n < u.length) : ((u ++ r').drop n).head? = ((u ++ r).drop n).head? := by
  rw [List.head?_drop, List.head?_drop, List.getElem?_append_left h, List.getElem?_append_left h]

private theorem digits_eq (base : Nat) (cs : List Char) : digits base cs =
    if runLength base cs = 0 then none
    else if (cs.drop (runLength base cs)).head? = some 'u' ∨ (cs.drop (runLength base cs)).head? = some 'U' then
      some (.unsigned base, runLength base cs + 1)
    else some (.integer base, runLength base cs) := by
  unfold digits
  dsimp only
  split
  · rfl
  · split
    · rename_i hdrop
      simp [hdrop]
    · rename_i hdrop
      simp [hdrop]
    · rename_i hu hU
      rw [if_neg]
      rintro (h | h) <;> obtain ⟨ds, hds⟩ := List.head?_eq_some_iff.mp h
      · exact hu ds hds
      · exact hU ds hds

private theorem runLength_le_of_within {base : Nat} (hw : Within u (digits base cs)) :
    runLength base cs ≤ u.length := by
  by_cases hzero : runLength base cs = 0
  · omega
  · rw [digits_eq, if_neg hzero] at hw
    split at hw
    · have := hw _ _ rfl
      omega
    · exact hw _ _ rfl

private theorem digits_append (hr : BlankAhead r') {base : Nat} (hw : Within u (digits base (u ++ r))) :
    digits base (u ++ r') = digits base (u ++ r) := by
  have hrun := runLength_append (u := u) (r := r) hr base
  have hle := runLength_le_of_within hw
  rw [digits_eq] at hw
  rw [digits_eq, digits_eq base (u ++ r), hrun]
  generalize runLength base (u ++ r) = n at hw hle ⊢
  by_cases hn : n = 0
  · simp [hn]
  rw [if_neg hn] at hw
  rw [Nat.min_eq_right hle, if_neg hn, if_neg hn]
  by_cases hlt : n < u.length
  · rw [head?_drop_append (r := r) hlt]
  · -- a suffix behind the text would be matched as well
    have heq : u.length = n := by omega
    rw [List.drop_left' heq] at hw
    rw [List.drop_left' heq, List.drop_left' heq]
    have hnot : ¬ (r.head? = some 'u' ∨ r.head? = some 'U') := by
      intro hsuffix
      rw [if_pos hsuffix] at hw
      have := hw _ _ rfl
      omega
    have hnot' : ¬ (r'.head? = some 'u' ∨ r'.head? = some 'U') := by
      rintro (h | h)
      · exact absurd (hr _ h) (by decide)
      · exact absurd (hr _ h) (by decide)
    rw [if_neg hnot, if_neg hnot']

private theorem hexadecimal_cons {x : Char} (hx : x = 'x' ∨ x = 'X') (cs : List Char) :
    hexadecimal ('0' :: x :: cs) = (digits 16 cs).map fun (l, n) => (l, n + 2) := by
  rcases hx with rfl | rfl <;> rfl

private theorem hexadecimal_eq_none_of_head (h : ∀ x ∈ cs.head?, ¬ (x = 'x' ∨ x = 'X')) :
    hexadecimal ('0' :: cs) = none := by
  unfold hexadecimal
  split
  · rename_i hcons
    rw [(List.cons.inj hcons).2] at h
    exact absurd (.inl rfl) (h 'x' rfl)
  · rename_i hcons
    rw [(List.cons.inj hcons).2] at h
    exact absurd (.inr rfl) (h 'X' rfl)
  · rfl

private theorem hexadecimal_append (hr : BlankAhead r') (hu : u ≠ []) (hw : Within u (hexadecimal (u ++ r))) :
    hexadecimal (u ++ r') = hexadecimal (u ++ r) := by
  obtain ⟨c, u, rfl⟩ := List.exists_cons_of_ne_nil hu
  by_cases hc : c = '0'
  · subst hc
    rw [List.cons_append] at hw
    rw [List.cons_append, List.cons_append]
    by_cases hx : ∃ x ∈ (u ++ r).head?, x = 'x' ∨ x = 'X'
    · obtain ⟨x, hhead, hx⟩ := hx
      cases u with
      | nil =>
        -- the letter does not belong to the text, so that no digit may stand behind it
        obtain ⟨cs, rfl⟩ := List.head?_eq_some_iff.mp hhead
        rw [List.nil_append, hexadecimal_cons hx] at hw
        rw [List.nil_append, List.nil_append, hexadecimal_cons hx,
          hexadecimal_eq_none_of_head (hr.head (by simp [blankChars]))]
        refine (hw.eq_none fun l n h => ?_).symm
        obtain ⟨⟨k, m⟩, -, hlonger⟩ := Option.map_eq_some_iff.mp h
        cases hlonger
        simp
      | cons d u =>
        obtain rfl := Option.some.inj hhead
        rw [List.cons_append, hexadecimal_cons hx] at hw
        rw [List.cons_append, List.cons_append, hexadecimal_cons hx, hexadecimal_cons hx, digits_append hr]
        intro l n h
        have := hw l (n + 2) (by rw [h]; rfl)
        simp only [List.length_cons] at this
        omega
    · have hnot : ∀ x ∈ (u ++ r).head?, ¬ (x = 'x' ∨ x = 'X') := fun x hhead hx' => hx ⟨x, hhead, hx'⟩
      rw [hexadecimal_eq_none_of_head hnot, hexadecimal_eq_none_of_head]
      cases u with
      | nil => exact hr.head (by simp [blankChars])
      | cons d u => exact hnot
  · rw [List.cons_append, List.cons_append, hexadecimal_eq_none hc, hexadecimal_eq_none hc]

private theorem signLength_cons (c : Char) (cs : List Char) :
    signLength (c :: cs) = if c = '+' ∨ c = '-' then 1 else 0 := by
  unfold signLength
  split
  · rename_i h
    simp [(List.cons.inj h).1]
  · rename_i h
    simp [(List.cons.inj h).1]
  · rename_i hplus hminus
    rw [if_neg]
    rintro (rfl | rfl)
    · exact hplus cs rfl
    · exact hminus cs rfl

/-- An exponent has a letter and a digit. -/
private theorem one_lt_exponentLength (h : exponentLength cs ≠ 0) : 1 < exponentLength cs := by
  cases cs with
  | nil => exact absurd rfl h
  | cons c cs =>
    rw [exponentLength_cons] at h ⊢
    split at h
    · rename_i hletter
      rw [if_pos hletter]
      split at h
      · exact absurd rfl h
      · rename_i hrun
        rw [if_neg hrun]
        omega
    · exact absurd rfl h

private theorem exponentLength_cons_blank (hr : BlankAhead r') (c : Char) : exponentLength (c :: r') = 0 := by
  have hsign : signLength r' = 0 := hr.of_forall rfl (by simp [blankChars, signLength])
  have hrun : runLength 10 r' = 0 := by
    simpa using runLength_append (u := []) (r := []) hr 10
  rw [exponentLength_cons, hsign, List.drop_zero, hrun, if_pos rfl, ite_self]

private theorem exponentLength_append (hr : BlankAhead r') (hw : exponentLength (u ++ r) ≤ u.length) :
    exponentLength (u ++ r') = exponentLength (u ++ r) := by
  match u with
  | [] =>
    have hzero : exponentLength r = 0 := Nat.le_zero.mp hw
    rw [List.nil_append, List.nil_append, hzero]
    exact exponentLength_eq_zero (hr.head (by simp [blankChars]))
  | [c] =>
    -- an exponent behind the letter would be beyond the text
    have hzero : exponentLength (c :: r) = 0 := by
      by_contra hne
      exact absurd (one_lt_exponentLength hne) (Nat.not_lt.mpr hw)
    exact (exponentLength_cons_blank hr c).trans hzero.symm
  | c :: d :: u =>
    have hsign (cs : List Char) : signLength (d :: (u ++ cs)) = signLength (d :: u) := by
      rw [signLength_cons, signLength_cons]
    have hdrop (cs : List Char) :
        (d :: (u ++ cs)).drop (signLength (d :: u)) = (d :: u).drop (signLength (d :: u)) ++ cs := by
      rw [← List.cons_append, List.drop_append_of_le_length (signLength_le _)]
    simp only [List.cons_append, exponentLength_cons, hsign, hdrop] at hw ⊢
    rw [runLength_append (r := r) hr, List.length_drop]
    split
    · rename_i hletter
      rw [if_pos hletter] at hw
      split at hw
      · rename_i hzero
        simp [hzero]
      · rw [List.length_cons] at hw
        rw [Nat.min_eq_right (by omega)]
    · rfl

/-- The length of the digits behind a point. -/
def fractionLength : List Char → Nat
  | '.' :: cs => runLength 10 cs
  | _ => 0

private theorem fractionLength_cons (c : Char) (cs : List Char) :
    fractionLength (c :: cs) = if c = '.' then runLength 10 cs else 0 := by
  unfold fractionLength
  split
  · rename_i h
    obtain ⟨rfl, rfl⟩ := List.cons.inj h
    rfl
  · rename_i h
    rw [if_neg]
    rintro rfl
    exact h cs rfl

private theorem fractionLength_append (hr : BlankAhead r')
    (hw : fractionLength (u ++ r) ≠ 0 → fractionLength (u ++ r) < u.length) :
    fractionLength (u ++ r') = fractionLength (u ++ r) := by
  cases u with
  | nil =>
    have hzero : fractionLength r = 0 := by
      by_contra hne
      exact absurd (hw hne) (Nat.not_lt_zero _)
    rw [List.nil_append, List.nil_append, hzero]
    exact hr.of_forall rfl (by simp [blankChars, fractionLength])
  | cons c u =>
    rw [List.cons_append, fractionLength_cons, List.length_cons] at hw
    rw [List.cons_append, List.cons_append, fractionLength_cons, fractionLength_cons, runLength_append (r := r) hr]
    split
    · rename_i hc
      rw [if_pos hc] at hw
      by_cases hzero : runLength 10 (u ++ r) = 0
      · simp [hzero]
      · have := hw hzero
        exact Nat.min_eq_right (by omega)
    · rfl

private theorem real_eq (cs : List Char) : real cs =
    if fractionLength (cs.drop (runLength 10 cs)) ≠ 0 then
      some (.float, runLength 10 cs + 1 + fractionLength (cs.drop (runLength 10 cs)) +
        exponentLength (cs.drop (runLength 10 cs + 1 + fractionLength (cs.drop (runLength 10 cs)))))
    else if runLength 10 cs ≠ 0 ∧ exponentLength (cs.drop (runLength 10 cs)) ≠ 0 then
      some (.float, runLength 10 cs + exponentLength (cs.drop (runLength 10 cs)))
    else none := by
  rw [real]
  rfl

private theorem real_append (hr : BlankAhead r') (hdigits : runLength 10 (u ++ r) ≤ u.length)
    (hw : Within u (real (u ++ r))) : real (u ++ r') = real (u ++ r) := by
  have hrun : runLength 10 (u ++ r') = runLength 10 (u ++ r) := by
    rw [runLength_append (r := r) hr, Nat.min_eq_right hdigits]
  have hdrop (cs : List Char) {n : Nat} (hn : n ≤ u.length) : (u ++ cs).drop n = u.drop n ++ cs :=
    List.drop_append_of_le_length hn
  rw [real_eq] at hw
  rw [real_eq, real_eq (u ++ r), hrun]
  generalize runLength 10 (u ++ r) = n at hdigits hw ⊢
  rw [hdrop r hdigits] at hw ⊢
  rw [hdrop r' hdigits]
  have hfraction : fractionLength (u.drop n ++ r') = fractionLength (u.drop n ++ r) := by
    refine fractionLength_append hr fun hne => ?_
    rw [if_pos hne] at hw
    have := hw _ _ rfl
    rw [List.length_drop]
    omega
  rw [hfraction]
  by_cases hne : fractionLength (u.drop n ++ r) ≠ 0
  · rw [if_pos hne] at hw ⊢
    have hlen := hw _ _ rfl
    rw [hdrop r (by omega)] at hlen ⊢
    rw [hdrop r' (by omega), if_pos hne, exponentLength_append hr]
    rw [List.length_drop]
    omega
  · -- without a fraction an exponent has to follow the digits
    rw [if_neg hne] at hw ⊢
    rw [if_neg hne]
    by_cases hzero : n = 0
    · simp [hzero]
    · have hexp : exponentLength (u.drop n ++ r') = exponentLength (u.drop n ++ r) := by
        refine exponentLength_append hr ?_
        by_cases hexp : exponentLength (u.drop n ++ r) = 0
        · omega
        · rw [if_pos ⟨hzero, hexp⟩] at hw
          have := hw _ _ rfl
          rw [List.length_drop]
          omega
      rw [hexp]

/-! ### Openings -/

private theorem quote?_eq_none_of_blank (hr : BlankAhead r') : quote? r' = none :=
  hr.of_forall rfl (by simp [blankChars, quote?])

private theorem le_length_of_pair (hr : BlankAhead r') {c : Char} (hc : isBlank c = false)
    (h : [c, c].isPrefixOf (u ++ r') = true) : 2 ≤ u.length := by
  have hne (cs : List Char) (hcs : r' = c :: cs) : False := by
    have := hr c (by rw [hcs]; rfl)
    rw [hc] at this
    cases this
  obtain ⟨ds, hds⟩ := List.isPrefixOf_iff_prefix.mp h
  match u with
  | [] => exact (hne _ hds.symm).elim
  | [d] => exact (hne _ (List.cons.inj hds).2.symm).elim
  | d :: e :: u => simp

/-- Whether a character stands twice at the head of a text is decided within the text. -/
private theorem pair_append (hr : BlankAhead r') {c : Char} (hc : isBlank c = false)
    (hw : [c, c].isPrefixOf (u ++ r) = true → 2 ≤ u.length) :
    [c, c].isPrefixOf (u ++ r') = [c, c].isPrefixOf (u ++ r) := by
  by_cases hlen : 2 ≤ u.length
  · match u, hlen with
    | d :: e :: u, _ => simp [List.isPrefixOf]
  · rw [Bool.eq_false_iff.mpr fun h => hlen (le_length_of_pair hr hc h), Bool.eq_false_iff.mpr fun h => hlen (hw h)]

private theorem count_lt_of_opening {isBytes isRaw : Bool} {count : Nat}
    (h : opening isBytes isRaw count cs = some (l, n)) : count < n := by
  obtain ⟨⟨q, tripled⟩, -, hx⟩ := Option.map_eq_some_iff.mp h
  dsimp only at hx
  split at hx
  · cases hx
    omega
  · cases hx
    omega

/-- The quote of an opening does not fit into a text of the letters in front of it. -/
private theorem opening_eq_none_of_within {isBytes isRaw : Bool} {count : Nat} (hlen : u.length ≤ count)
    (hw : Within u (opening isBytes isRaw count cs)) : opening isBytes isRaw count cs = none :=
  hw.eq_none fun _ _ h => hlen.trans_lt (count_lt_of_opening h)

/-- No opening goes on with a blank behind its letters. -/
private theorem opening_eq_none_of_blank (hr : BlankAhead r') {isBytes isRaw : Bool} {count : Nat}
    (hlen : u.length = count) : opening isBytes isRaw count (u ++ r') = none := by
  rw [opening, List.drop_left' hlen, quote?_eq_none_of_blank hr, Option.map_none]

private theorem opening_append (hr : BlankAhead r') {isBytes isRaw : Bool} {count : Nat} (hcount : count ≤ u.length)
    (hw : Within u (opening isBytes isRaw count (u ++ r))) :
    opening isBytes isRaw count (u ++ r') = opening isBytes isRaw count (u ++ r) := by
  rcases hcount.eq_or_lt with hlen | hlt
  · rw [opening_eq_none_of_within hlen.ge hw, opening_eq_none_of_blank hr hlen.symm]
  · obtain ⟨c, v, hdrop⟩ : ∃ c v, u.drop count = c :: v :=
      List.exists_cons_of_ne_nil (List.drop_eq_nil_iff.not.mpr (Nat.not_le.mpr hlt))
    have hlen := congrArg List.length hdrop
    rw [List.length_drop, List.length_cons] at hlen
    rw [opening, List.drop_append_of_le_length hcount, hdrop, List.cons_append, quote?] at hw
    rw [opening, opening, List.drop_append_of_le_length hcount, List.drop_append_of_le_length hcount, hdrop,
      List.cons_append, List.cons_append, quote?, quote?]
    by_cases hc : c = '"' ∨ c = '\x27'
    · rw [if_pos hc, Option.map_some] at hw
      rw [if_pos hc, if_pos hc, Option.map_some, Option.map_some]
      by_cases hraw : (isBytes && isRaw) = true
      · simp [hraw]
      · have hblank : isBlank c = false := by rcases hc with rfl | rfl <;> decide
        rw [pair_append hr hblank fun hpair => ?_]
        rw [hpair] at hw
        have := hw (.quoted ⟨isBytes, .verbatim, c⟩) (count + 3) (by simp [hraw])
        omega
    · rw [if_neg hc, if_neg hc]

/-- Whether the letter of raw literals stands ahead. -/
def rawAhead (cs : List Char) : Bool := cs.head?.any fun c => c = 'r' || c = 'R'

theorem literalOpening_cons (c : Char) (cs : List Char) : literalOpening (c :: cs) =
    if c = 'r' ∨ c = 'R' then opening false true 1 (c :: cs)
    else if c = 'b' ∨ c = 'B' then
      if rawAhead cs then opening true true 2 (c :: cs) else opening true false 1 (c :: cs)
    else opening false false 0 (c :: cs) := by
  unfold literalOpening
  dsimp only
  split
  · rfl
  · split
    · split
      · rfl
      · rfl
      · rename_i hr hR
        rw [if_neg]
        intro h
        unfold rawAhead at h
        cases cs with
        | nil => cases h
        | cons d ds =>
          simp only [List.head?_cons, Option.any_some, Bool.or_eq_true, decide_eq_true_eq] at h
          rcases h with rfl | rfl
          · exact hr ds rfl
          · exact hR ds rfl
    · rfl

/-- Whether the letter of byte strings is followed by that of raw literals is decided within the text. -/
private theorem bytesOpening_append (hr : BlankAhead r') {c : Char}
    (hw : Within (c :: u) (if rawAhead (u ++ r) then opening true true 2 (c :: (u ++ r))
      else opening true false 1 (c :: (u ++ r)))) :
    (if rawAhead (u ++ r') then opening true true 2 (c :: (u ++ r')) else opening true false 1 (c :: (u ++ r'))) =
      if rawAhead (u ++ r) then opening true true 2 (c :: (u ++ r)) else opening true false 1 (c :: (u ++ r)) := by
  cases u with
  | nil =>
    have hblank : rawAhead r' = false := hr.of_forall rfl (by simp [blankChars, rawAhead])
    have hnone : opening true false 1 (c :: r') = none := opening_eq_none_of_blank (u := [c]) hr rfl
    rw [List.nil_append] at hw
    rw [List.nil_append, List.nil_append, hblank, if_neg Bool.false_ne_true, hnone]
    -- an opening with more than its first letter would be beyond the text
    split
    · rename_i hraw
      rw [if_pos hraw] at hw
      exact (opening_eq_none_of_within (by simp) hw).symm
    · rename_i hraw
      rw [if_neg hraw] at hw
      exact (opening_eq_none_of_within (by simp) hw).symm
  | cons d u =>
    have hahead (cs : List Char) : rawAhead (d :: u ++ cs) = rawAhead (d :: u) := rfl
    rw [hahead] at hw
    rw [hahead, hahead]
    split
    · rename_i hraw
      rw [if_pos hraw] at hw
      exact opening_append hr (by simp) hw
    · rename_i hraw
      rw [if_neg hraw] at hw
      exact opening_append hr (by simp) hw

private theorem literalOpening_append (hr : BlankAhead r') (hu : u ≠ []) (hw : Within u (literalOpening (u ++ r))) :
    literalOpening (u ++ r') = literalOpening (u ++ r) := by
  obtain ⟨c, u, rfl⟩ := List.exists_cons_of_ne_nil hu
  rw [List.cons_append, literalOpening_cons] at hw
  rw [List.cons_append, List.cons_append, literalOpening_cons, literalOpening_cons]
  split
  · rename_i hraw
    rw [if_pos hraw] at hw
    exact opening_append (u := c :: u) hr (by simp) hw
  · rename_i hraw
    rw [if_neg hraw] at hw
    split
    · rename_i hbytes
      rw [if_pos hbytes] at hw
      exact bytesOpening_append hr hw
    · rename_i hbytes
      rw [if_neg hbytes] at hw
      exact opening_append (u := c :: u) hr (Nat.zero_le _) hw

/-! ### Words and symbols -/

private theorem words_append (hr : BlankAhead r') (hu : u ≠ []) (hw : Within u (words (u ++ r))) :
    words (u ++ r') = words (u ++ r) := by
  obtain ⟨c, u, rfl⟩ := List.exists_cons_of_ne_nil hu
  rw [List.cons_append, words] at hw
  rw [List.cons_append, List.cons_append, words, words]
  split
  · rename_i hc
    rw [if_pos hc] at hw
    have hlen := hw _ _ rfl
    rw [List.length_cons] at hlen
    rw [length_takeWhile_append (r := r) (hr.head (by simp [blankChars, isWordChar])), Nat.min_eq_right (by omega)]
  · rfl

/-- The longer spellings come first. -/
private theorem pairwise_signs :
    Symbol.signs.Pairwise fun s s' => s'.text.toList.length ≤ s.text.toList.length := by decide +kernel

/-- A match of a symbol is the longest there is. -/
private theorem le_length_of_symbols {s : Symbol} (hs : s ∈ Symbol.signs) (h : s.text.toList.isPrefixOf cs = true) :
    ∃ l n, symbols cs = some (l, n) ∧ s.text.toList.length ≤ n := by
  cases hfind : Symbol.signs.find? fun s => s.text.toList.isPrefixOf cs with
  | none =>
    have := List.find?_eq_none.mp hfind s hs
    exact absurd h this
  | some s' =>
    refine ⟨.sign s', s'.text.toList.length, by rw [symbols, hfind]; rfl, ?_⟩
    obtain ⟨-, front, behind, hsigns, hfront⟩ := List.find?_eq_some_iff_append.mp hfind
    have hpairwise := pairwise_signs
    rw [hsigns] at hs hpairwise
    rcases List.mem_append.mp hs with hs | hs
    · have := hfront s hs
      rw [h] at this
      cases this
    · rcases List.mem_cons.mp hs with rfl | hs
      · exact Nat.le_refl _
      · exact (List.pairwise_cons.mp (List.pairwise_append.mp hpairwise).2.1).1 s hs

private theorem symbols_append (hr : BlankAhead r') (hw : Within u (symbols (u ++ r))) :
    symbols (u ++ r') = symbols (u ++ r) := by
  have hblank : ∀ s ∈ Symbol.signs, s.text.toList.all (fun c => !isBlank c) = true := by decide +kernel
  have hspelling : ∀ s ∈ Symbol.signs, s.text.toList.isPrefixOf (u ++ r') = s.text.toList.isPrefixOf (u ++ r) := by
    intro s hs
    rw [Bool.eq_iff_iff, List.isPrefixOf_iff_prefix, List.isPrefixOf_iff_prefix]
    by_cases hlen : s.text.toList.length ≤ u.length
    · have hspelt (cs : List Char) : s.text.toList <+: u ++ cs ↔ s.text.toList <+: u :=
        ⟨fun h => List.prefix_of_prefix_length_le h (List.prefix_append u cs) hlen,
          fun h => h.trans (List.prefix_append u cs)⟩
      rw [hspelt, hspelt]
    · constructor
      · -- no spelling goes on with a blank
        rintro ⟨t, ht⟩
        rcases List.append_eq_append_iff.mp ht with ⟨v, hv, -⟩ | ⟨v, hv, hr'⟩
        · rw [hv, List.length_append] at hlen
          omega
        · cases v with
          | nil =>
            rw [hv, List.append_nil] at hlen
            omega
          | cons d v =>
            have hd : isBlank d = true := hr d (by rw [hr']; rfl)
            have := List.all_eq_true.mp (hblank s hs) d (by rw [hv]; simp)
            rw [hd] at this
            cases this
      · intro hspelt
        obtain ⟨l, n, hsymbols, hle⟩ := le_length_of_symbols hs (List.isPrefixOf_iff_prefix.mpr hspelt)
        have := hw l n hsymbols
        omega
  unfold symbols
  rw [List.find?_congr hspelling]

/-! ### Recognition -/

/-- No word, number or quoted literal begins with the character. -/
def BeginsNone (c : Char) : Prop := isDigit 10 c = false ∧ c ≠ '0' ∧ c ≠ '.' ∧ c ∉ openers ∧ isLetter c = false

instance : DecidablePred BeginsNone := fun _ => inferInstanceAs (Decidable (_ ∧ _ ∧ _ ∧ _ ∧ _))

private theorem sign_of_beginsNone {c : Char} (hc : BeginsNone c) (hl : l ≠ .blank)
    (h : recognise (c :: cs) = some (l, n)) : symbols (c :: cs) = some (l, n) := by
  obtain ⟨hdigit, hzero, hpoint, hopener, hletter⟩ := hc
  cases l with
  | blank => exact absurd rfl hl
  | integer base | unsigned base =>
    rcases match_or_match_of_recognise rfl h with hrule | hrule
    · rw [decimal_eq_none hdigit] at hrule
      cases hrule
    · rw [hexadecimal_eq_none hzero] at hrule
      cases hrule
  | float => cases (real_eq_none hdigit hpoint).symm.trans (match_of_recognise rfl h)
  | quoted o => cases (literalOpening_eq_none hopener).symm.trans (match_of_recognise rfl h)
  | word => cases (words_eq_none hletter).symm.trans (match_of_recognise rfl h)
  | sign s => exact match_of_recognise rfl h

/-- A text that is passed over is not recognised as anything else. -/
private theorem not_blank_of_recognise {c : Char} (hl : l ≠ .blank) (h : recognise (c :: cs) = some (l, n)) :
    isBlank c = false := by
  rw [Bool.eq_false_iff]
  intro hblank
  have hnone : BeginsNone c := of_isBlank hblank (by decide)
  have hsigns : ∀ s ∈ Symbol.signs, s.text.toList.head? ≠ some c :=
    of_isBlank hblank (by decide +kernel)
  have hsymbols := sign_of_beginsNone hnone hl h
  rw [symbols_eq_none hsigns] at hsymbols
  cases hsymbols

private theorem not_comment_of_recognise (hl : l ≠ .blank) (h : recognise cs = some (l, n)) : comment cs = none := by
  rw [Option.eq_none_iff_forall_ne_some]
  rintro ⟨k, m⟩ hcomment
  have hle := le_of_recognise h (by simp [rules]) hcomment
  unfold comment at hcomment
  split at hcomment
  · cases hcomment
    have hsymbols := sign_of_beginsNone (by decide) hl h
    have hn : n = 1 := by
      cases hsymbols
      rfl
    omega
  · cases hcomment

private theorem comment_append (hr : BlankAhead r') (hu : u ≠ []) (h : comment (u ++ r) = none) :
    comment (u ++ r') = none := by
  rw [Option.eq_none_iff_forall_ne_some]
  intro x hx
  unfold comment at hx
  split at hx
  · rename_i cs hcs
    match u, hu with
    | [c], _ =>
      have hslash : r' = '/' :: cs := (List.cons.inj hcs).2
      exact absurd (hr '/' (by rw [hslash]; rfl)) (by decide)
    | c :: d :: u, _ =>
      obtain rfl : c = '/' := (List.cons.inj hcs).1
      obtain rfl : d = '/' := (List.cons.inj (List.cons.inj hcs).2).1
      cases h
  · cases hx

/-- What is recognised within a text is recognised as well when a blank stands behind the text. -/
theorem recognise_append (hr : BlankAhead r') (hl : l ≠ .blank) (h : recognise (u ++ r) = some (l, n))
    (hn : n ≤ u.length) : recognise (u ++ r') = some (l, n) := by
  have hw (rule : Rule) (hrule : rule ∈ rules) : Within u (rule (u ++ r)) :=
    fun k m hx => (le_of_recognise h hrule hx).trans hn
  have hu : u ≠ [] := by
    rintro rfl
    have := (bounded_recognise _ _ _ h).1
    rw [List.length_nil] at hn
    omega
  have hblanks : blanks (u ++ r') = blanks (u ++ r) := by
    obtain ⟨c, u, rfl⟩ := List.exists_cons_of_ne_nil hu
    have hc := not_blank_of_recognise hl h
    rw [List.cons_append, List.cons_append, blanks_eq_none hc, blanks_eq_none hc]
  have hcomment : comment (u ++ r') = comment (u ++ r) := by
    have hnone := not_comment_of_recognise hl h
    rw [hnone, comment_append hr hu hnone]
  have hdecimal : decimal (u ++ r') = decimal (u ++ r) := digits_append hr (hw decimal (by simp [rules]))
  have hhex := hexadecimal_append hr hu (hw hexadecimal (by simp [rules]))
  have hreal := real_append hr (runLength_le_of_within (hw decimal (by simp [rules]))) (hw real (by simp [rules]))
  have hopening := literalOpening_append hr hu (hw literalOpening (by simp [rules]))
  have hwords := words_append hr hu (hw words (by simp [rules]))
  have hsymbols := symbols_append hr (hw symbols (by simp [rules]))
  rw [recognise_eq, hblanks, hcomment, hdecimal, hhex, hreal, hopening, hwords, hsymbols, ← recognise_eq, h]

end Lexeme

end ExprLang
