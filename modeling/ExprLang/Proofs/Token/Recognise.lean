import ExprLang.Proofs.Number.Numeral
import ExprLang.Token.Lexeme

/-!
# The longest match

Which lexeme stands at the head of a text. A word or a number is recognised as a whole when what follows does not go on
with it (`Apart`); of the other rules those that begin with the same characters match less of it.
-/

namespace ExprLang.Lexeme

open Digits (isDigit)

variable {c : Char} {cs ds rest : List Char}

/-! ### What can follow a word or a number -/

/-- Whether a character goes on with no word, number or quoted literal. -/
def separates (c : Char) : Bool := !(isWordChar c || c = '.' || c = '"' || c = '\x27')

/-- The text does not go on with a word, a number or a quoted literal in front of it. -/
def Apart (rest : List Char) : Prop := ∀ c ∈ rest.head?, separates c = true

theorem Apart.ne (h : Apart rest) {d : Char} (hd : separates d = false) : ∀ c ∈ rest.head?, c ≠ d := by
  rintro c hc rfl
  rw [h c hc] at hd
  nomatch hd

theorem Apart.not_word (h : Apart rest) : ∀ c ∈ rest.head?, isWordChar c = false := by
  intro c hc
  have := h c hc
  rw [separates] at this
  simp at this
  exact this.1.1.1

theorem isWordChar_of_isDigit (h : isDigit 10 c = true) : isWordChar c = true := Digits.of_isDigit h (by decide)

theorem Apart.not_digit (h : Apart rest) : ∀ c ∈ rest.head?, isDigit 10 c = false := by
  intro c hc
  rw [Bool.eq_false_iff]
  intro hd
  have := h.not_word c hc
  rw [isWordChar_of_isDigit hd] at this
  nomatch this

/-! ### The longer of two matches -/

theorem recognise_eq (cs : List Char) : recognise cs =
    longer (longer (longer (longer (longer (longer (longer (blanks cs) (comment cs)) (decimal cs)) (hexadecimal cs))
      (real cs)) (literalOpening cs)) (words cs)) (symbols cs) := rfl

theorem longer_none (a : Option (Lexeme × Nat)) : longer a none = a := by
  cases a <;> rfl

theorem longer_of_lt {l k : Lexeme} {n m : Nat} (h : n < m) : longer (some (l, n)) (some (k, m)) = some (k, m) :=
  if_pos h

/-! ### Rules that do not apply -/

theorem blanks_eq_none (h : isBlank c = false) : blanks (c :: cs) = none := by
  simp [blanks, h]

theorem comment_eq_none (h : c ≠ '/') : comment (c :: cs) = none := by
  unfold comment
  split
  · rename_i hcons
    exact absurd (List.cons.inj hcons).1 h
  · rfl

theorem decimal_eq_none (h : isDigit 10 c = false) : decimal (c :: cs) = none := by
  simp [decimal, digits, Digits.runLength, h]

theorem hexadecimal_eq_none (h : c ≠ '0') : hexadecimal (c :: cs) = none := by
  unfold hexadecimal
  split
  · rename_i hcons
    exact absurd (List.cons.inj hcons).1 h
  · rename_i hcons
    exact absurd (List.cons.inj hcons).1 h
  · rfl

theorem exponentLength_eq_zero (h : ∀ c ∈ rest.head?, c ≠ 'e' ∧ c ≠ 'E') : exponentLength rest = 0 := by
  cases rest with
  | nil => rfl
  | cons c cs =>
    obtain ⟨h₁, h₂⟩ := h c rfl
    simp [exponentLength, h₁, h₂]

theorem real_eq_none (h : isDigit 10 c = false) (hc : c ≠ '.') : real (c :: cs) = none := by
  have hn : Digits.runLength 10 (c :: cs) = 0 := by simp [Digits.runLength, h]
  unfold real
  dsimp only
  rw [hn, List.drop_zero]
  split
  · rename_i hcons
    exact absurd (List.cons.inj hcons).1 hc
  · simp

theorem words_eq_none (h : isLetter c = false) : words (c :: cs) = none := by
  simp [words, h]

theorem symbols_eq_none (h : ∀ s ∈ Symbol.signs, s.text.toList.head? ≠ some c) : symbols (c :: cs) = none := by
  unfold symbols
  rw [Option.map_eq_none_iff, List.find?_eq_none]
  intro s hs hprefix
  have := h s hs
  cases htext : s.text.toList with
  | nil =>
    have all : ∀ s ∈ Symbol.signs, s.text.toList ≠ [] := by decide +kernel
    exact all s hs htext
  | cons d ds =>
    rw [htext] at hprefix this
    simp at hprefix this
    exact this hprefix.1

/-- The characters that the opening of a quoted literal begins with. -/
def openers : List Char := ['r', 'R', 'b', 'B', '"', '\x27']

theorem literalOpening_eq_none (h : c ∉ openers) : literalOpening (c :: cs) = none := by
  simp only [openers, List.mem_cons, List.not_mem_nil, or_false, not_or] at h
  obtain ⟨hr, hR, hb, hB, hq, hq'⟩ := h
  simp [literalOpening, hr, hR, hb, hB, opening, quote?, hq, hq']

/-! ### Words -/

/-- No quote stands behind the letters of a word. -/
private theorem quote?_eq_none (h : ∀ c ∈ rest.head?, c ≠ '"' ∧ c ≠ '\x27') : quote? rest = none := by
  cases rest with
  | nil => rfl
  | cons c cs =>
    obtain ⟨h₁, h₂⟩ := h c rfl
    simp [quote?, h₁, h₂]

private theorem not_quote (hcs : ∀ c ∈ cs, isWordChar c = true) (hr : Apart rest) :
    ∀ c ∈ (cs ++ rest).head?, c ≠ '"' ∧ c ≠ '\x27' := by
  have hsep (c : Char) (h : isWordChar c = true ∨ separates c = true) : c ≠ '"' ∧ c ≠ '\x27' := by
    constructor
    · rintro rfl
      revert h
      decide
    · rintro rfl
      revert h
      decide
  intro c hc
  cases cs with
  | nil => exact hsep c (.inr (hr c hc))
  | cons d ds =>
    obtain rfl : d = c := by simpa using hc
    exact hsep d (.inl (hcs d List.mem_cons_self))

private theorem opening_eq_none {isBytes isRaw : Bool} {count : Nat} (h : quote? (cs.drop count) = none) :
    opening isBytes isRaw count cs = none := by
  rw [opening, h, Option.map_none]

private theorem literalOpening_word (hc : isLetter c = true) (hcs : ∀ c ∈ cs, isWordChar c = true) (hr : Apart rest) :
    literalOpening (c :: (cs ++ rest)) = none := by
  have hnot : quote? (cs ++ rest) = none := quote?_eq_none (not_quote hcs hr)
  unfold literalOpening
  dsimp only
  split
  · exact opening_eq_none hnot
  · split
    · -- a raw byte string has two letters in front of its quote
      have hsecond {d : Char} {ds : List Char} (h : cs ++ rest = d :: ds) (hd : separates d = false) :
          quote? ((c :: (cs ++ rest)).drop 2) = none := by
        show quote? ((cs ++ rest).drop 1) = none
        rw [h]
        show quote? ds = none
        cases cs with
        | nil =>
          have : d ∈ rest.head? := by
            rw [List.nil_append] at h
            rw [h]
            rfl
          exact absurd rfl (hr.ne hd d this)
        | cons e es =>
          obtain ⟨_, rfl⟩ := List.cons.inj h
          exact quote?_eq_none (not_quote (fun c hc => hcs c (List.mem_cons_of_mem _ hc)) hr)
      split
      · rename_i h
        exact opening_eq_none (hsecond h (by decide))
      · rename_i h
        exact opening_eq_none (hsecond h (by decide))
      · exact opening_eq_none hnot
    · refine opening_eq_none (quote?_eq_none fun d hd => ?_)
      obtain rfl : c = d := by simpa using hd
      constructor
      · rintro rfl
        exact absurd hc (by decide)
      · rintro rfl
        exact absurd hc (by decide)

theorem recognise_word (hc : isLetter c = true) (hcs : ∀ c ∈ cs, isWordChar c = true) (hr : Apart rest) :
    recognise (c :: (cs ++ rest)) = some (.word, 1 + cs.length) := by
  have hne {d : Char} (hd : isLetter d = false) : c ≠ d := by
    rintro rfl
    rw [hd] at hc
    nomatch hc
  have hblank : isBlank c = false := by
    rw [Bool.eq_false_iff]
    intro hb
    simp only [isBlank, Bool.or_eq_true, decide_eq_true_eq] at hb
    rcases hb with (((rfl | rfl) | rfl) | rfl) | rfl <;> exact absurd hc (by decide)
  have hdigit : isDigit 10 c = false := by
    rw [Bool.eq_false_iff]
    intro hd
    have hletter : isLetter c = false := Digits.of_isDigit hd (by decide)
    exact hne hletter rfl
  have hsign : ∀ s ∈ Symbol.signs, s.text.toList.head? ≠ some c := by
    have all : ∀ s ∈ Symbol.signs, s.text.toList.head?.any isLetter = false := by decide +kernel
    intro s hs hd
    have hletter := all s hs
    rw [hd, Option.any_some] at hletter
    exact hne hletter rfl
  have hwords : words (c :: (cs ++ rest)) = some (.word, 1 + cs.length) := by
    rw [words, if_pos hc, (takeWhile_append_eq hcs hr.not_word).1]
  rw [recognise_eq, blanks_eq_none hblank, comment_eq_none (hne (by decide)), decimal_eq_none hdigit,
    hexadecimal_eq_none (hne (by decide)), real_eq_none hdigit (hne (by decide)), literalOpening_word hc hcs hr, hwords,
    symbols_eq_none hsign]
  rfl

/-! ### Numbers -/

section Numbers

/-- The rules that apply to what begins with a digit are those of numbers. -/
theorem recognise_digit (hc : isDigit 10 c = true) (cs : List Char) : recognise (c :: cs) =
    longer (longer (decimal (c :: cs)) (hexadecimal (c :: cs))) (real (c :: cs)) := by
  have hblank : isBlank c = false := Digits.of_isDigit hc (by decide)
  have hcomment : c ≠ '/' := Digits.of_isDigit hc (by decide)
  have hopening : c ∉ openers := Digits.of_isDigit hc (by decide)
  have hletter : isLetter c = false := Digits.of_isDigit hc (by decide)
  have hsign : ∀ s ∈ Symbol.signs, s.text.toList.head? ≠ some c := Digits.of_isDigit hc (by decide +kernel)
  rw [recognise_eq, blanks_eq_none hblank, comment_eq_none hcomment, literalOpening_eq_none hopening,
    words_eq_none hletter, symbols_eq_none hsign, longer_none, longer_none, longer_none]
  rfl

/-- A numeral is hexadecimal only with an `x` behind its first digit. -/
private theorem hexadecimal_digits (hne : ds ≠ []) (hds : ∀ c ∈ ds, isDigit 10 c = true)
    (hr : ∀ c ∈ rest.head?, c ≠ 'x' ∧ c ≠ 'X') : hexadecimal (ds ++ rest) = none := by
  obtain ⟨c, ds, rfl⟩ := List.exists_cons_of_ne_nil hne
  have hx (d : Char) (h : d = 'x' ∨ d = 'X') {cs : List Char} (hcons : ds ++ rest = d :: cs) : False := by
    cases ds with
    | nil =>
      have : d ∈ rest.head? := by
        rw [List.nil_append] at hcons
        rw [hcons]
        rfl
      obtain ⟨h₁, h₂⟩ := hr d this
      exact h.elim h₁ h₂
    | cons e es =>
      obtain ⟨rfl, _⟩ := List.cons.inj hcons
      have he := hds e (by simp)
      rcases h with rfl | rfl <;> exact absurd he (by decide)
  rw [List.cons_append]
  unfold hexadecimal
  split
  · rename_i h
    exact (hx 'x' (.inl rfl) (List.cons.inj h).2).elim
  · rename_i h
    exact (hx 'X' (.inr rfl) (List.cons.inj h).2).elim
  · rfl

private theorem real_integer (hds : ∀ c ∈ ds, isDigit 10 c = true)
    (hr : ∀ c ∈ rest.head?, isDigit 10 c = false ∧ c ≠ '.' ∧ c ≠ 'e' ∧ c ≠ 'E') : real (ds ++ rest) = none := by
  have hn := Digits.runLength_append hds fun c hc => (hr c hc).1
  have he : exponentLength rest = 0 := exponentLength_eq_zero fun c hc => (hr c hc).2.2
  unfold real
  dsimp only
  rw [hn, List.drop_left, he]
  split
  · exact absurd rfl (hr '.' rfl).2.1
  · simp

theorem recognise_integer (hne : ds ≠ []) (hds : ∀ c ∈ ds, isDigit 10 c = true) (hr : Apart rest) :
    recognise (ds ++ rest) = some (.integer 10, ds.length) := by
  have hn := Digits.runLength_append hds hr.not_digit
  have hdecimal : decimal (ds ++ rest) = some (.integer 10, ds.length) := by
    unfold decimal digits
    dsimp only
    rw [hn, if_neg (by simpa using hne), List.drop_left]
    split
    · exact absurd rfl (hr.ne (by decide) 'u' rfl)
    · exact absurd rfl (hr.ne (by decide) 'U' rfl)
    · rfl
  have hhex := hexadecimal_digits hne hds fun c hc => ⟨hr.ne (by decide) c hc, hr.ne (by decide) c hc⟩
  have hreal := real_integer hds fun c hc =>
    ⟨hr.not_digit c hc, hr.ne (by decide) c hc, hr.ne (by decide) c hc, hr.ne (by decide) c hc⟩
  obtain ⟨c, ds', rfl⟩ := List.exists_cons_of_ne_nil hne
  rw [List.cons_append] at *
  rw [recognise_digit (hds c List.mem_cons_self), hdecimal, hhex, hreal]
  rfl

theorem recognise_unsigned (hne : ds ≠ []) (hds : ∀ c ∈ ds, isDigit 10 c = true) :
    recognise (ds ++ 'u' :: rest) = some (.unsigned 10, ds.length + 1) := by
  have hu : ∀ c ∈ ('u' :: rest).head?, c = 'u' := fun c hc => (Option.some.inj hc).symm
  have hn : Digits.runLength 10 (ds ++ 'u' :: rest) = ds.length :=
    Digits.runLength_append hds fun c hc => by rw [hu c hc]; decide
  have hdecimal : decimal (ds ++ 'u' :: rest) = some (.unsigned 10, ds.length + 1) := by
    unfold decimal digits
    dsimp only
    rw [hn, if_neg (by simpa using hne), List.drop_left]
    rfl
  have hhex : hexadecimal (ds ++ 'u' :: rest) = none :=
    hexadecimal_digits hne hds fun c hc => by rw [hu c hc]; decide
  have hreal : real (ds ++ 'u' :: rest) = none := real_integer hds fun c hc => by rw [hu c hc]; decide
  obtain ⟨c, ds', rfl⟩ := List.exists_cons_of_ne_nil hne
  rw [List.cons_append] at *
  rw [recognise_digit (hds c List.mem_cons_self), hdecimal, hhex, hreal]
  rfl

private theorem exponentLength_eq {X : List Char} {e : Int} (h : Decimal.ExponentPart X e) (hr : Apart rest) :
    exponentLength (X ++ rest) = X.length := by
  have hrun {ds : List Char} {n : Nat} (hv : Digits.value? 10 ds = some n) :
      Digits.runLength 10 (ds ++ rest) = ds.length ∧ ds ≠ [] := by
    refine ⟨Digits.runLength_append (Digits.isDigit_of_value? hv) hr.not_digit, ?_⟩
    rintro rfl
    nomatch hv
  cases h with
  | absent => exact exponentLength_eq_zero fun c hc => ⟨hr.ne (by decide) c hc, hr.ne (by decide) c hc⟩
  | positive hv =>
    obtain ⟨hn, hne⟩ := hrun hv
    obtain ⟨c, ds, rfl⟩ := List.exists_cons_of_ne_nil hne
    have hc := Digits.isDigit_of_value? hv c List.mem_cons_self
    have hplus : c ≠ '+' := by
      rintro rfl
      exact absurd hc (by decide)
    have hminus : c ≠ '-' := by
      rintro rfl
      exact absurd hc (by decide)
    rw [List.cons_append] at hn
    simp [exponentLength, hplus, hminus, hn]
    omega
  | negative hv =>
    obtain ⟨hn, hne⟩ := hrun hv
    simp [exponentLength, hn, hne]
    omega

/-- The digits in front of a point or an exponent are an integer when they stand alone. -/
private theorem decimal_digits (hne : ds ≠ []) (hds : ∀ c ∈ ds, isDigit 10 c = true) (hc : c = '.' ∨ c = 'e') :
    decimal (ds ++ c :: rest) = some (.integer 10, ds.length) := by
  have hn : Digits.runLength 10 (ds ++ c :: rest) = ds.length := by
    refine Digits.runLength_append hds fun d hd => ?_
    obtain rfl : c = d := Option.some.inj hd
    rcases hc with rfl | rfl <;> decide
  unfold decimal digits
  dsimp only
  rw [hn, if_neg (by simpa using hne), List.drop_left]
  rcases hc with rfl | rfl <;> rfl

private theorem recognise_longer (hne : ds ≠ []) (hds : ∀ c ∈ ds, isDigit 10 c = true) (hc : c = '.' ∨ c = 'e')
    {n : Nat} (hreal : real (ds ++ c :: rest) = some (.float, n)) (hn : ds.length < n) :
    recognise (ds ++ c :: rest) = some (.float, n) := by
  have hdecimal := @decimal_digits c ds rest hne hds hc
  have hhex : hexadecimal (ds ++ c :: rest) = none := by
    refine hexadecimal_digits hne hds fun d hd => ?_
    obtain rfl : c = d := Option.some.inj hd
    rcases hc with rfl | rfl <;> decide
  obtain ⟨d, ds', rfl⟩ := List.exists_cons_of_ne_nil hne
  rw [List.cons_append] at *
  rw [recognise_digit (hds d List.mem_cons_self), hdecimal, hhex, hreal, longer_none, longer_of_lt hn]

section Parts

variable {W F X : List Char} {e : Int}

private theorem real_pointed (hW : ∀ c ∈ W, isDigit 10 c = true) (hF : ∀ c ∈ F, isDigit 10 c = true) (hne : F ≠ [])
    (hX : Decimal.ExponentPart X e) (hr : Apart rest) :
    real (W ++ '.' :: (F ++ (X ++ rest))) = some (.float, W.length + 1 + F.length + X.length) := by
  have hn : Digits.runLength 10 (W ++ '.' :: (F ++ (X ++ rest))) = W.length :=
    Digits.runLength_append hW (by simp; decide)
  have hk : Digits.runLength 10 (F ++ (X ++ rest)) = F.length := by
    refine Digits.runLength_append hF ?_
    cases hX with
    | absent => exact hr.not_digit
    | positive | negative => simp; decide
  have hdrop : (W ++ '.' :: (F ++ (X ++ rest))).drop (W.length + 1 + F.length) = X ++ rest := by
    rw [← List.drop_drop, ← List.drop_drop, List.drop_left, List.drop_one, List.tail_cons, List.drop_left]
  unfold real
  simp only [hn, List.drop_left, hk, hdrop, exponentLength_eq hX hr]
  rw [if_pos (by simpa using hne)]

/-- An exponent has to be there when there is no point. -/
private theorem real_whole (hW : ∀ c ∈ W, isDigit 10 c = true) (hne : W ≠ []) (hX : Decimal.ExponentPart X e)
    (hX₀ : X ≠ []) (hr : Apart rest) : real (W ++ (X ++ rest)) = some (.float, W.length + X.length) := by
  have hn : Digits.runLength 10 (W ++ (X ++ rest)) = W.length := by
    refine Digits.runLength_append hW ?_
    cases hX with
    | absent => exact absurd rfl hX₀
    | positive | negative => simp; decide
  unfold real
  simp only [hn, List.drop_left, exponentLength_eq hX hr]
  cases hX with
  | absent => exact absurd rfl hX₀
  | positive | negative => simp [hne]

end Parts

theorem recognise_numeral {d : Decimal} (h : Decimal.Numeral cs d) (hr : Apart rest) :
    recognise (cs ++ rest) = some (.float, cs.length) := by
  cases h with
  | @pointed W F X n e hW hF hv hX =>
    have hdigits := Digits.isDigit_of_value? hv
    have hWd : ∀ c ∈ W, isDigit 10 c = true := fun c hc => hdigits c (List.mem_append_left F hc)
    have hFd : ∀ c ∈ F, isDigit 10 c = true := fun c hc => hdigits c (List.mem_append_right W hc)
    rw [List.append_assoc, List.cons_append, List.append_assoc]
    rw [recognise_longer hW hWd (.inl rfl) (real_pointed hWd hFd hF hX hr) (by omega)]
    simp
    omega
  | @whole W X n e hW hX₀ hv hX =>
    have hWd := Digits.isDigit_of_value? hv
    have hlen : 0 < X.length := List.length_pos_of_ne_nil hX₀
    have hreal := real_whole hWd hW hX hX₀ hr
    rw [List.append_assoc, List.length_append]
    cases hX with
    | absent => exact absurd rfl hX₀
    | positive | negative => exact recognise_longer hW hWd (.inr rfl) hreal (by omega)

end Numbers

end ExprLang.Lexeme
