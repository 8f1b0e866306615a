import ExprLang.Proofs.Token.Scan

/-!
# Texts of many tokens

The tokens of a value are written one behind the other, with a blank behind commas and colons. They are read back when
each constant stands where no operand has just ended (`Legible`): then its sign is joined to it, and what follows it
begins with a symbol and does not go on with it.

The scanner reads a constant as one token, as a sign and a magnitude, or, for the least integer, as a token that has
taken the sign away from the tokens before. `Reads` is what the three have in common, and `ReadsAs` says of a whole text
what it is read as.
-/

namespace ExprLang

open Lexeme (Apart)

variable {pos gap : Nat} {before more : List SpannedToken} {last : Option Token} {t : Token} {T : List Token} {s : Span}
  {c : Char} {cs rest : List Char}

/-- No float in the literal is infinite or not a number. -/
def Literal.IsFinite : Literal → Prop
  | float f => f.isFinite = true
  | _ => True

/-- Whether the text of the literal begins with a sign. -/
def Literal.isSigned : Literal → Bool
  | int n => n.toInt < 0
  | float f => Binary64.signBit f
  | _ => false

namespace Lexer

/-! ### Steps of the scanner -/

theorem scanFrom_token (hne : cs ≠ []) (h : Scan.head (cs ++ rest) = .token t cs.length) :
    scanFrom pos before (cs ++ rest) =
      scanFrom (pos + Utf8.size cs) ((t, ⟨pos, pos + Utf8.size cs⟩) :: before) rest := by
  obtain ⟨c, cs, rfl⟩ := List.exists_cons_of_ne_nil hne
  rw [List.cons_append] at *
  rw [scanFrom.eq_def]
  dsimp only
  rw [h]
  dsimp only
  rw [List.length_cons, List.take_succ_cons, List.take_left, Nat.add_sub_cancel, List.drop_left]

theorem head_blank (hc : Lexeme.isBlank c = true) (cs : List Char) :
    Scan.head (c :: cs) = .blank ((cs.takeWhile Lexeme.isBlank).length + 1) := by
  simp only [Lexeme.isBlank, Bool.or_eq_true, decide_eq_true_eq] at hc
  rcases hc with (((rfl | rfl) | rfl) | rfl) | rfl <;> rfl

private theorem scanFrom_blanks (hc : Lexeme.isBlank c = true) (cs : List Char) :
    scanFrom pos before (c :: cs) =
      scanFrom (pos + (c.utf8Size + Utf8.size (cs.takeWhile Lexeme.isBlank))) before
        (cs.dropWhile Lexeme.isBlank) := by
  have hcs : cs.takeWhile Lexeme.isBlank ++ cs.dropWhile Lexeme.isBlank = cs := List.takeWhile_append_dropWhile
  have htake := @List.take_left _ (cs.takeWhile Lexeme.isBlank) (cs.dropWhile Lexeme.isBlank)
  have hdrop := @List.drop_left _ (cs.takeWhile Lexeme.isBlank) (cs.dropWhile Lexeme.isBlank)
  rw [hcs] at htake hdrop
  rw [scanFrom.eq_def]
  dsimp only
  rw [head_blank hc]
  dsimp only
  rw [List.take_succ_cons, Nat.add_sub_cancel, Utf8.size_cons, htake, hdrop]

/-- Blanks are passed over one by one. -/
theorem scanFrom_blank (hc : Lexeme.isBlank c = true) (cs : List Char) :
    scanFrom pos before (c :: cs) = scanFrom (pos + c.utf8Size) before cs := by
  rw [scanFrom_blanks hc]
  cases cs with
  | nil => rfl
  | cons d ds =>
    by_cases hd : Lexeme.isBlank d = true
    · rw [scanFrom_blanks hd, List.takeWhile_cons_of_pos hd, List.dropWhile_cons_of_pos hd, Utf8.size_cons,
        Nat.add_assoc]
    · rw [List.takeWhile_cons_of_neg hd, List.dropWhile_cons_of_neg hd]
      rfl

/-- The least integer is read with its sign at once. -/
theorem scanFrom_least (hbefore : before.head?.any (fun t => t.1.endsOperand) = false) (hr : Apart rest) :
    ∃ span, span.start = pos ∧ scanFrom pos before ('-' :: (Digits.write 10 Lexeme.leastMagnitude 1 ++ rest)) =
      scanFrom (pos + Utf8.size ('-' :: Digits.write 10 Lexeme.leastMagnitude 1))
        ((.literal (.int Int64.minValue), span) :: before) rest := by
  obtain ⟨c, cs, hcs⟩ := List.exists_cons_of_ne_nil (@Digits.write_ne_nil 10 Lexeme.leastMagnitude 1)
  have hhead := head_leastMagnitude hr
  have hmagnitude := magnitude?_write Lexeme.leastMagnitude
  have hminus : scanFrom pos before (['-'] ++ (c :: cs ++ rest)) = _ := scanFrom_token (by simp) rfl
  rw [hcs] at hhead hmagnitude ⊢
  rw [List.singleton_append] at hminus
  rw [hminus, List.cons_append, scanFrom.eq_def]
  dsimp only
  rw [← List.cons_append, hhead]
  dsimp only
  rw [List.take_left, joinLeast?, if_pos hmagnitude]
  simp only [hbefore]
  rw [if_pos ⟨trivial, rfl⟩]
  dsimp only
  rw [List.length_cons, Nat.add_sub_cancel, List.drop_left, Nat.add_assoc, ← Utf8.size_append]
  exact ⟨_, rfl, rfl⟩

/-! ### Joining signs -/

/-- A token stays as it is when it is no sign, or nothing touches it. -/
theorem joinSigns_cons (h : t = .symbol .minus → ∀ u ∈ more.head?, s.stop ≠ u.2.start) :
    joinSigns last ((t, s) :: more) = (t, s) :: joinSigns (some t) more := by
  cases more with
  | nil => rfl
  | cons u more =>
    obtain ⟨u, r⟩ := u
    rw [joinSigns.eq_def]
    dsimp only
    split
    · rw [if_pos (.inr (h rfl _ rfl))]
    · rfl

theorem joinSigns_sign {l k : Literal} {r : Span} (hl : l.negated? = some k) (hs : s.stop = r.start)
    (hlast : last.any Token.endsOperand = false) :
    joinSigns last ((.symbol .minus, s) :: (.literal l, r) :: more) =
      (.literal k, s.through r) :: joinSigns (some (.literal k)) more := by
  rw [joinSigns, if_neg (by simp [hlast, hs]), hl]

/-! ### Texts of single tokens -/

/-- The tokens read so far end like `last`, as far as signs are concerned. -/
def EndLike (before : List SpannedToken) (last : Option Token) : Prop :=
  before.head?.any (fun t => t.1.endsOperand) = last.any Token.endsOperand

/-- The text in front of `rest` is read as the token `t` behind `last`, once signs are joined. A minus sign is not
joined to tokens that do not touch it. -/
def Reads (last : Option Token) (cs : List Char) (t : Token) (rest : List Char) : Prop :=
  ∀ pos before, EndLike before last → ∃ first raw,
    scanFrom pos before (cs ++ rest) = scanFrom (pos + Utf8.size cs) (raw.reverse ++ first :: before) rest ∧
    first.2.start = pos ∧
    EndLike (raw.reverse ++ first :: before) (some t) ∧
    ∀ more : List SpannedToken, (t = .symbol .minus → ∀ u ∈ more.head?, pos + Utf8.size cs ≠ u.2.start) →
      ∃ s, joinSigns last (first :: (raw ++ more)) = (t, s) :: joinSigns (some t) more

theorem reads_of_head (hne : cs ≠ []) (h : Scan.head (cs ++ rest) = .token t cs.length) : Reads last cs t rest := by
  intro pos before _
  refine ⟨(t, ⟨pos, pos + Utf8.size cs⟩), [], scanFrom_token hne h, rfl, rfl, fun more hmore => ?_⟩
  exact ⟨_, joinSigns_cons hmore⟩

theorem Reads.blank (h : Reads last cs t (c :: rest)) (hc : Lexeme.isBlank c = true) (ht : t ≠ .symbol .minus) :
    Reads last (cs ++ [c]) t rest := by
  intro pos before hbefore
  obtain ⟨first, raw, hscan, hstart, hend, hjoin⟩ := h pos before hbefore
  refine ⟨first, raw, ?_, hstart, hend, fun more _ => hjoin more fun hminus => absurd hminus ht⟩
  rw [List.append_assoc, List.singleton_append, hscan, scanFrom_blank hc, Utf8.size_append, Nat.add_assoc]
  rfl

/-- The text is read as the tokens `T` behind `last`, once signs are joined. The first of them begins `gap` bytes behind
the beginning of the text. -/
def ReadsAs (gap : Nat) (last : Option Token) (cs : List Char) (T : List Token) : Prop :=
  ∀ pos before, EndLike before last → ∃ raw,
    scanFrom pos before cs = .ok (before.reverse ++ raw) ∧
    (∀ u ∈ raw.head?, u.2.start = pos + gap) ∧
    (joinSigns last raw).map Prod.fst = T

theorem readsAs_nil : ReadsAs gap last [] [] := by
  intro pos before _
  refine ⟨[], ?_, nofun, rfl⟩
  rw [scanFrom.eq_def, List.append_nil]

/-- What has been read matters to what follows only through the operand that may have ended there. -/
theorem Reads.cons (h : Reads last cs t rest) (hrest : ReadsAs gap (some t) rest T)
    (hgap : t = .symbol .minus → 0 < gap) : ReadsAs 0 last (cs ++ rest) (t :: T) := by
  intro pos before hbefore
  obtain ⟨first, raw, hscan, hstart, hend, hjoin⟩ := h pos before hbefore
  obtain ⟨others, hothers, hgap', hkinds⟩ := hrest (pos + Utf8.size cs) _ hend
  have happart : t = .symbol .minus → ∀ u ∈ others.head?, pos + Utf8.size cs ≠ u.2.start := by
    intro ht u hu
    have := hgap ht
    have := hgap' u hu
    omega
  obtain ⟨s, hs⟩ := hjoin others happart
  refine ⟨first :: (raw ++ others), ?_, ?_, ?_⟩
  · rw [hscan, hothers]
    simp
  · rintro u ⟨⟩
    exact hstart
  · rw [hs, List.map_cons, hkinds]

theorem ReadsAs.blank (h : ReadsAs gap last cs T) (hc : Lexeme.isBlank c = true) :
    ReadsAs (c.utf8Size + gap) last (c :: cs) T := by
  intro pos before hbefore
  obtain ⟨raw, hscan, hstart, hkinds⟩ := h (pos + c.utf8Size) before hbefore
  refine ⟨raw, ?_, ?_, hkinds⟩
  · rw [scanFrom_blank hc, hscan]
  · rwa [← Nat.add_assoc]

/-- What a text is read as behind no token are its tokens. -/
theorem ReadsAs.lex (h : ReadsAs gap none cs T) :
    ∃ tokens, lex (String.ofList cs) = .ok tokens ∧ tokens.map Prod.fst = T := by
  obtain ⟨raw, hscan, -, hkinds⟩ := h 0 [] rfl
  refine ⟨joinSigns none raw, ?_, hkinds⟩
  rw [ExprLang.lex, String.toList_ofList, hscan]
  rfl

/-- A sign in front of a number is read on its own and joined to it. -/
theorem reads_negative {l k : Literal} (h : Spells cs (.literal l)) (hl : l.negated? = some k)
    (hlast : last.any Token.endsOperand = false) (hr : Apart rest) : Reads last ('-' :: cs) (.literal k) rest := by
  intro pos before _
  let sign : SpannedToken := (.symbol .minus, ⟨pos, pos + Utf8.size ['-']⟩)
  let number : SpannedToken := (.literal l, ⟨pos + Utf8.size ['-'], pos + Utf8.size ['-'] + Utf8.size cs⟩)
  have hsign : scanFrom pos before (['-'] ++ (cs ++ rest)) =
      scanFrom (pos + Utf8.size ['-']) (sign :: before) (cs ++ rest) := scanFrom_token (by simp) rfl
  have hnumber : scanFrom (pos + Utf8.size ['-']) (sign :: before) (cs ++ rest) =
      scanFrom (pos + Utf8.size ['-'] + Utf8.size cs) (number :: sign :: before) rest :=
    scanFrom_token h.1 (h.2 rest hr)
  rw [hnumber, Nat.add_assoc, ← Utf8.size_append] at hsign
  exact ⟨sign, [number], hsign, rfl, rfl, fun more _ => ⟨_, joinSigns_sign hl rfl hlast⟩⟩

/-- The least integer is read with its sign at once. -/
theorem reads_least (hlast : last.any Token.endsOperand = false) (hr : Apart rest) :
    Reads last ('-' :: Digits.write 10 Lexeme.leastMagnitude 1) (.literal (.int Int64.minValue)) rest := by
  intro pos before hbefore
  obtain ⟨span, hstart, hspan⟩ := @scanFrom_least pos before rest (hbefore.trans hlast) hr
  exact ⟨(.literal (.int Int64.minValue), span), [], hspan, hstart, rfl, fun more _ => ⟨_, joinSigns_cons nofun⟩⟩

/-! ### Constants -/

private theorem reads_of_spells {l : Literal} (h : Spells cs (.literal l)) (hr : Apart rest) :
    Reads last cs (.literal l) rest := reads_of_head h.1 (h.2 rest hr)

theorem reads_int (n : Int64) (hlast : n.toInt < 0 → last.any Token.endsOperand = false) (hr : Apart rest) :
    Reads last (Digits.writeInt n.toInt) (.literal (.int n)) rest := by
  have hmin := n.le_toInt
  have hmax := n.toInt_lt
  have hleast : Int64.minValue.toInt = -2 ^ 63 := by decide
  have hmagnitude : Lexeme.leastMagnitude = 2 ^ 63 := rfl
  unfold Digits.writeInt
  by_cases hneg : n.toInt < 0
  · rw [if_pos hneg, List.singleton_append]
    -- the magnitude of the least integer alone is out of range
    by_cases hn : n = Int64.minValue
    · rw [hn]
      exact reads_least (hlast hneg) hr
    · have hne : n.toInt ≠ -2 ^ 63 := by
        rw [← hleast]
        exact fun h => hn (Int64.toInt_inj.mp h)
      have hnegated : (Literal.int (Int64.ofNat n.toInt.natAbs)).negated? = some (.int n) := by
        have hofNat : Int64.ofNat n.toInt.natAbs ≠ Int64.minValue := by
          rw [← Int64.toInt_inj.ne, Int64.toInt_ofNat_of_lt (by omega), hleast]
          omega
        have hneg : -Int64.ofNat n.toInt.natAbs = n := by
          rw [← Int64.toInt_inj, Int64.toInt_neg_ofNat_of_le (by omega)]
          omega
        rw [Literal.negated?, if_neg hofNat, hneg]
      exact reads_negative (spells_integer (by omega)) hnegated (hlast hneg) hr
  · rw [if_neg hneg, List.nil_append]
    have hspells := @spells_integer n.toInt.natAbs (by omega)
    have hn : Int64.ofNat n.toInt.natAbs = n := by
      rw [← Int64.toInt_inj, Int64.toInt_ofNat_of_lt (by omega)]
      omega
    rw [hn] at hspells
    exact reads_of_spells hspells hr

theorem reads_float {f : Float} (hf : f.isFinite = true)
    (hlast : Binary64.signBit f = true → last.any Token.endsOperand = false) (hr : Apart rest) :
    Reads last (Literal.float f).text.toList (.literal (.float f)) rest := by
  obtain ⟨negative, m, e, hfinite⟩ := (Binary64.isFinite_iff f).mp hf
  obtain ⟨cs, d, htext, hcs, hvalue⟩ := Decimal.exists_numeral_write hfinite "NaN" "inf" "-inf"
  have hspells := spells_numeral hcs
  rw [Binary64.signBit_of_finite hfinite] at hlast
  rw [Literal.text, htext]
  cases negative with
  | false =>
    rw [← hvalue]
    exact reads_of_spells hspells hr
  | true =>
    refine reads_negative hspells ?_ (hlast rfl) hr
    rw [← hvalue]
    rfl

theorem reads_literal {l : Literal} (hl : l.IsFinite) (hlast : l.isSigned = true → last.any Token.endsOperand = false)
    (hr : Apart rest) : Reads last l.text.toList (.literal l) rest := by
  cases l with
  | null => exact reads_of_spells (@spells_word ['u', 'l', 'l'] 'n' (by decide) (List.all_eq_true.mp (by decide))) hr
  | bool b =>
    have hfalse := @spells_word ['a', 'l', 's', 'e'] 'f' (by decide) (List.all_eq_true.mp (by decide))
    have htrue := @spells_word ['r', 'u', 'e'] 't' (by decide) (List.all_eq_true.mp (by decide))
    cases b with
    | false => exact reads_of_spells hfalse hr
    | true => exact reads_of_spells htrue hr
  | int n =>
    rw [Literal.text, String.toList_ofList]
    exact reads_int n (fun hneg => hlast (decide_eq_true hneg)) hr
  | uint u =>
    rw [Literal.text, String.toList_ofList]
    exact reads_of_spells (spells_unsigned u) hr
  | float f => exact reads_float hl hlast hr
  | string s => exact reads_of_spells (spells_string s) hr
  | bytes bs => exact reads_of_spells (spells_bytes bs) hr

end Lexer

/-! ### Texts of many tokens -/

/-- The symbols around constants and between them. -/
def punctuation : List Symbol := [.openBracket, .closeBracket, .openBrace, .closeBrace, .comma, .colon]

/-- The text of a token, with a blank behind commas and colons. -/
def written : Token → List Char
  | .symbol .comma => [',', ' ']
  | .symbol .colon => [':', ' ']
  | t => t.text.toList

/-- The texts of tokens, one behind the other. -/
def layout (T : List Token) : List Char := T.flatMap written

/-- Whether a token can be written where an operand has just ended or has not: no constant touches an operand. -/
def Fits (ended : Bool) : Token → Prop
  | .literal l => l.IsFinite ∧ ended = false
  | .symbol y => y ∈ punctuation
  | _ => False

/-- The tokens can be told apart when they are written one behind the other. -/
def Legible (ended : Bool) : List Token → Prop
  | [] => True
  | t :: T => Fits ended t ∧ Legible t.endsOperand T

private theorem reads_written (h : Fits (last.any Token.endsOperand) t) (hr : t.endsOperand = true → Apart rest) :
    Lexer.Reads last (written t) t rest := by
  cases t with
  | literal l => exact Lexer.reads_literal h.1 (fun _ => h.2) (hr rfl)
  | symbol y =>
    simp only [Fits, punctuation, List.mem_cons, List.not_mem_nil, or_false] at h
    have hcomma : Lexer.Reads last [','] (.symbol .comma) (' ' :: rest) :=
      Lexer.reads_of_head (by simp) rfl
    have hcolon : Lexer.Reads last [':'] (.symbol .colon) (' ' :: rest) :=
      Lexer.reads_of_head (by simp) rfl
    rcases h with rfl | rfl | rfl | rfl | rfl | rfl
    · exact Lexer.reads_of_head (by decide) rfl
    · exact Lexer.reads_of_head (by decide) rfl
    · exact Lexer.reads_of_head (by decide) rfl
    · exact Lexer.reads_of_head (by decide) rfl
    · exact hcomma.blank rfl (by simp)
    · exact hcolon.blank rfl (by simp)
  | name s | reserved s => exact h.elim

/-- What is written behind an operand does not go on with it. -/
private theorem apart_layout (h : Legible true T) : Apart (layout T) := by
  cases T with
  | nil =>
    rintro c ⟨⟩
  | cons t T =>
    obtain ⟨ht, -⟩ := h
    cases t with
    | literal l => exact nomatch ht.2
    | symbol y =>
      simp only [Fits, punctuation, List.mem_cons, List.not_mem_nil, or_false] at ht
      intro c hc
      rcases ht with rfl | rfl | rfl | rfl | rfl | rfl <;> (obtain rfl := Option.some.inj hc; rfl)
    | name s | reserved s => exact ht.elim

/-- Legible tokens are read back. -/
private theorem readsAs_layout (hT : Legible (last.any Token.endsOperand) T) :
    Lexer.ReadsAs 0 last (layout T) T := by
  induction T generalizing last with
  | nil => exact Lexer.readsAs_nil
  | cons t T ih =>
    obtain ⟨ht, hT⟩ := hT
    have hr : t.endsOperand = true → Apart (layout T) := by
      intro hend
      rw [hend] at hT
      exact apart_layout hT
    have hminus : t ≠ .symbol .minus := by
      rintro rfl
      exact absurd ht (by decide : Symbol.minus ∉ punctuation)
    exact (reads_written ht hr).cons (@ih (some t) hT) fun h => absurd h hminus

/-- A text of legible tokens consists of these tokens. -/
theorem exists_lex_layout (hT : Legible false T) :
    ∃ tokens, lex (String.ofList (layout T)) = .ok tokens ∧ tokens.map Prod.fst = T :=
  (@readsAs_layout none T hT).lex

end ExprLang
