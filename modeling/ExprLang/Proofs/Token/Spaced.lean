import ExprLang.Proofs.Token.Lexical

/-!
# Tokens set off by blanks

The texts of the tokens of a text, joined by blanks, are read as the same tokens again: a blank is enough to keep words
and numbers apart, and no sign touches a constant that it is not joined to (`exists_lex_intercalate`).
-/

namespace ExprLang

open Lexeme (Apart)

variable {last : Option Token} {t : Token} {T : List Token} {rest : List Char}

/-- The texts of tokens, each with a blank in front. -/
def setOff (T : List Token) : List Char := T.flatMap fun t => ' ' :: t.text.toList

theorem apart_setOff : Apart (setOff T) := by
  cases T with
  | nil => nofun
  | cons t T =>
    rintro c ⟨⟩
    decide

/-! ### Single tokens -/

theorem Token.text_ofWord (s : String) : (Token.ofWord s).text = s := by
  unfold Token.ofWord
  split_ifs with h₁ h₂ h₃ h₄
  · exact h₁.symm
  · exact h₂.symm
  · exact h₃.symm
  · exact h₄.symm
  · rfl
  · rfl

private theorem reads_word (h : t.IsWord) (hr : Apart rest) : Lexer.Reads last t.text.toList t rest := by
  obtain ⟨c, ds, hc, hds, rfl⟩ := h
  rw [Token.text_ofWord, String.toList_ofList]
  have hspells := spells_word hc hds
  exact Lexer.reads_of_head hspells.1 (hspells.2 rest hr)

/-- A blank keeps a symbol from being read as the beginning of a longer one. -/
private theorem head_symbol (y : Symbol) (T : List Token) :
    Scan.head (y.text.toList ++ setOff T) = .token (.symbol y) y.text.toList.length := by
  cases T with
  | nil => cases y <;> rfl
  | cons t T => cases y <;> rfl

private theorem reads_text (ht : t.CanFollow (last.any Token.endsOperand))
    (hfinite : ∀ l, t = .literal l → l.IsFinite) (T : List Token) :
    Lexer.Reads last t.text.toList t (setOff T) := by
  cases t with
  | literal l => exact Lexer.reads_literal (hfinite l rfl) ht.2 apart_setOff
  | name s | reserved s => exact reads_word ht apart_setOff
  | symbol y => exact Lexer.reads_of_head (by cases y <;> decide) (head_symbol y T)

/-! ### Texts of many tokens -/

private theorem readsAs_setOff (hT : Lexical (last.any Token.endsOperand) T)
    (hfinite : ∀ l, Token.literal l ∈ T → l.IsFinite) : Lexer.ReadsAs 1 last (setOff T) T := by
  induction T generalizing last with
  | nil => exact Lexer.readsAs_nil
  | cons t T ih =>
    have hreads := reads_text hT.1 (fun l h => hfinite l (h ▸ List.mem_cons_self)) T
    have hrest := @ih (some t) hT.2 fun l h => hfinite l (List.mem_cons_of_mem _ h)
    exact (hreads.cons hrest fun _ => Nat.one_pos).blank rfl

private theorem toList_intercalate_texts (t : Token) (T : List Token) :
    (" ".intercalate ((t :: T).map Token.text)).toList = t.text.toList ++ setOff T := by
  induction T generalizing t with
  | nil =>
    rw [List.map_singleton, String.intercalate_singleton]
    exact (List.append_nil _).symm
  | cons u T ih =>
    have ih := ih u
    rw [List.map_cons] at ih
    rw [List.map_cons, List.map_cons, String.intercalate_cons_cons, String.toList_append, String.toList_append, ih]
    simp [setOff]

/-- Tokens that can stand one behind the other are read back from their texts. -/
theorem exists_lex_intercalate (hT : Lexical false T) (hfinite : ∀ l, Token.literal l ∈ T → l.IsFinite) :
    ∃ tokens, lex (" ".intercalate (T.map Token.text)) = .ok tokens ∧ tokens.map Prod.fst = T := by
  cases T with
  | nil => exact (@Lexer.readsAs_nil 0 none).lex
  | cons t T =>
    have hreads := @reads_text none t hT.1 (fun l h => hfinite l (h ▸ List.mem_cons_self)) T
    have hrest := @readsAs_setOff (some t) T hT.2 fun l h => hfinite l (List.mem_cons_of_mem _ h)
    have hlex := (hreads.cons hrest fun _ => Nat.one_pos).lex
    rwa [← toList_intercalate_texts, String.ofList_toList] at hlex

/-- The token is an infinite float, which no text spells. -/
def Token.isInfinite : Token → Bool
  | literal (.float f) => f.isInf
  | _ => false

private theorem isFinite_of_isNumber {l : Literal} (h : l.IsNumber) (hinf : (Token.literal l).isInfinite = false) :
    l.IsFinite := by
  cases l with
  | float f =>
    show f.isFinite = true
    cases hparts : Binary64.ofFloat f with
    | nan => exact absurd hparts h
    | infinite s =>
      have : f.isInf = true := (Binary64.isInf_iff f).mpr ⟨s, hparts⟩
      rw [Token.isInfinite, this] at hinf
      cases hinf
    | finite s m e => exact (Binary64.isFinite_iff f).mpr ⟨s, m, e, hparts⟩
  | _ => trivial

private theorem isNumber_of_lexical {ended : Bool} {l : Literal} (hT : Lexical ended T) (hl : Token.literal l ∈ T) :
    l.IsNumber := by
  induction T generalizing ended with
  | nil => cases hl
  | cons t T ih =>
    rcases List.mem_cons.mp hl with rfl | hl
    · exact hT.1.1
    · exact ih hT.2 hl

/-- Displayed tokens are read back: where no float of a text is infinite, the texts of its tokens, joined by blanks, are
read as the same tokens. -/
theorem lex_texts (source : String) (tokens : List SpannedToken) (h : lex source = .ok tokens)
    (hfinite : ∀ t ∈ tokens, t.1.isInfinite = false) :
    ∃ again, lex (" ".intercalate (tokens.map fun t => t.1.text)) = .ok again ∧
      again.map Prod.fst = tokens.map Prod.fst := by
  have hlexical := lexical_of_lex h
  have htexts : tokens.map (fun t => t.1.text) = (tokens.map Prod.fst).map Token.text := by
    rw [List.map_map]
    rfl
  rw [htexts]
  refine exists_lex_intercalate hlexical fun l hl => isFinite_of_isNumber (isNumber_of_lexical hlexical hl) ?_
  obtain ⟨t, ht, hkind⟩ := List.mem_map.mp hl
  rw [← hkind]
  exact hfinite t ht

/-- Signs that are joined and signs that are not, the least integer behind an operator, and literals of every kind. -/
theorem lex_texts_signs :
    let source := "-5--0x1F 'a\\u00e9\\n' b'\\xff' 12u in x.if[-.5e-3,- 1,7-1,null--9223372036854775808]true"
    let texts := ["-5", "-", "-31", "\"aé\\n\"", "b\"\\xff\"", "12u", "in", "x", ".", "if", "[", "-0.0005", ",", "-",
      "1", ",", "7", "-", "1", ",", "null", "-", "-9223372036854775808", "]", "true"]
    ∃ tokens, lex source = .ok tokens ∧ tokens.map (fun t => t.1.text) = texts ∧
      (∀ t ∈ tokens, t.1.isInfinite = false) ∧
      ∃ again, lex (" ".intercalate texts) = .ok again ∧ again.map Prod.fst = tokens.map Prod.fst := by
  intro source texts
  have hrun : (lex source).toOption.map (List.map fun t => t.1.text) = some texts := by decide +kernel
  have hcheck : (lex source).toOption.all (fun tokens => tokens.all fun t => !t.1.isInfinite) = true := by
    decide +kernel
  cases h : lex source with
  | error e =>
    rw [h] at hrun
    cases hrun
  | ok tokens =>
    rw [h] at hrun hcheck
    have htexts : tokens.map (fun t => t.1.text) = texts := Option.some.inj hrun
    have hfinite : ∀ t ∈ tokens, t.1.isInfinite = false := by
      simpa [Except.toOption] using hcheck
    rw [← htexts]
    exact ⟨tokens, rfl, rfl, hfinite, lex_texts source tokens h hfinite⟩

/-! ### Floats of a text -/

/-- What the texts of the infinities are read as. -/
def infinityTokens (negative : Bool) : List Token :=
  if negative then [.symbol .minus, .name "inf"] else [.name "inf"]

private theorem lex_infinity (negative : Bool) :
    ∃ again, lex (if negative then "-inf" else "inf") = .ok again ∧ again.map Prod.fst = infinityTokens negative := by
  have hname (pos : Nat) (before : List SpannedToken) : Lexer.scanFrom pos before (['i', 'n', 'f'] ++ []) =
      Lexer.scanFrom (pos + 3) ((.name "inf", ⟨pos, pos + 3⟩) :: before) [] :=
    Lexer.scanFrom_token (by simp) rfl
  cases negative with
  | false =>
    have hlex : lex "inf" = (Lexer.scanFrom 0 [] (['i', 'n', 'f'] ++ [])).map (Lexer.joinSigns none) := rfl
    refine ⟨[(.name "inf", ⟨0, 3⟩)], hlex.trans ?_, rfl⟩
    rw [hname, Lexer.scanFrom.eq_def]
    rfl
  | true =>
    have hminus : Lexer.scanFrom 0 [] (['-'] ++ ['i', 'n', 'f']) =
        Lexer.scanFrom 1 [(.symbol .minus, ⟨0, 1⟩)] (['i', 'n', 'f'] ++ []) :=
      Lexer.scanFrom_token (by simp) rfl
    have hlex : lex "-inf" = (Lexer.scanFrom 0 [] (['-'] ++ ['i', 'n', 'f'])).map (Lexer.joinSigns none) := rfl
    refine ⟨[(.symbol .minus, ⟨0, 1⟩), (.name "inf", ⟨1, 4⟩)], hlex.trans ?_, rfl⟩
    rw [hminus, hname, Lexer.scanFrom.eq_def]
    rfl

/-- The text of a float of a text is read as this float alone when the float is finite, and only then: what the digits
and the exponent denote has no bound, and the text of an infinity is a name, perhaps behind a sign. -/
theorem lex_text_float (source : String) (tokens : List SpannedToken) (h : lex source = .ok tokens) (f : Float)
    (s : Span) (hf : (.literal (.float f), s) ∈ tokens) :
    ((∃ again, lex (Token.literal (.float f)).text = .ok again ∧ again.map Prod.fst = [.literal (.float f)]) ↔
      f.isFinite = true) ∧
    ∀ negative, Binary64.ofFloat f = .infinite negative →
      ∃ again, lex (Token.literal (.float f)).text = .ok again ∧ again.map Prod.fst = infinityTokens negative := by
  have hnumber : (Literal.float f).IsNumber := isNumber_of_lexical (lexical_of_lex h) (List.mem_map_of_mem hf)
  have hinfinite (negative : Bool) (hparts : Binary64.ofFloat f = .infinite negative) :
      ∃ again, lex (Token.literal (.float f)).text = .ok again ∧ again.map Prod.fst = infinityTokens negative := by
    have htext : (Token.literal (.float f)).text = if negative then "-inf" else "inf" := by
      rw [Token.text, Literal.text, Binary64.write, hparts]
    rw [htext]
    exact lex_infinity negative
  refine ⟨⟨fun hback => ?_, fun hfinite => ?_⟩, hinfinite⟩
  · obtain ⟨again, hagain, hkinds⟩ := hback
    rw [Binary64.isFinite_iff]
    cases hparts : Binary64.ofFloat f with
    | nan => exact absurd hparts hnumber
    | infinite negative =>
      obtain ⟨other, hother, hnames⟩ := hinfinite negative hparts
      rw [hagain] at hother
      cases hother
      rw [hkinds] at hnames
      cases negative <;> cases hnames
    | finite negative m e => exact ⟨negative, m, e, rfl⟩
  · have hlexical : Lexical false [Token.literal (.float f)] := ⟨⟨hnumber, fun _ => rfl⟩, trivial⟩
    have hback := exists_lex_intercalate hlexical fun l hl => ?_
    · rwa [List.map_singleton, String.intercalate_singleton] at hback
    · obtain rfl : l = .float f := by simpa using hl
      exact hfinite

/-- The only token of a text that is a single float. -/
private def onlyFloat? (source : String) : Option Float :=
  match lex source with
  | .ok [(.literal (.float f), _)] => some f
  | _ => none

private theorem mem_of_onlyFloat? {source : String} {f : Float} (h : onlyFloat? source = some f) :
    ∃ tokens s, lex source = .ok tokens ∧ (.literal (.float f), s) ∈ tokens := by
  unfold onlyFloat? at h
  split at h
  · rename_i g s hlex
    cases h
    exact ⟨_, s, hlex, List.mem_cons_self⟩
  · cases h

/-- The greatest float is read back from its text, and a literal that rounds to more is not. -/
theorem lex_text_float_bounds :
    ∃ f g, onlyFloat? "1.7976931348623157e308" = some f ∧ onlyFloat? "1.7976931348623159e308" = some g ∧
      (∃ again, lex (Token.literal (.float f)).text = .ok again ∧ again.map Prod.fst = [.literal (.float f)]) ∧
      ¬ ∃ again, lex (Token.literal (.float g)).text = .ok again ∧ again.map Prod.fst = [.literal (.float g)] := by
  have hbelow : (onlyFloat? "1.7976931348623157e308").map Float.isFinite = some true := by decide +kernel
  have habove : (onlyFloat? "1.7976931348623159e308").map Float.isFinite = some false := by decide +kernel
  obtain ⟨f, hf, hfinite⟩ := Option.map_eq_some_iff.mp hbelow
  obtain ⟨g, hg, hinfinite⟩ := Option.map_eq_some_iff.mp habove
  obtain ⟨tokens, s, hlex, hmem⟩ := mem_of_onlyFloat? hf
  obtain ⟨tokens', s', hlex', hmem'⟩ := mem_of_onlyFloat? hg
  refine ⟨f, g, hf, hg, (lex_text_float _ _ hlex f s hmem).1.mpr hfinite, fun hback => ?_⟩
  rw [(lex_text_float _ _ hlex' g s' hmem').1.mp hback] at hinfinite
  cases hinfinite

/-- Not every float of a text survives display. -/
theorem not_lex_text_float :
    ¬ ∀ (source : String) (tokens : List SpannedToken), lex source = .ok tokens → ∀ (f : Float) (s : Span),
      (.literal (.float f), s) ∈ tokens →
        ∃ again, lex (Token.literal (.float f)).text = .ok again ∧ again.map Prod.fst = [.literal (.float f)] := by
  intro h
  have hrun : (onlyFloat? "1e999").map (fun f => (Token.literal (.float f)).text) = some "inf" := by decide +kernel
  obtain ⟨f, hf, htext⟩ := Option.map_eq_some_iff.mp hrun
  obtain ⟨tokens, s, hlex, hmem⟩ := mem_of_onlyFloat? hf
  obtain ⟨again, hagain, hkinds⟩ := h "1e999" tokens hlex f s hmem
  obtain ⟨other, hother, hnames⟩ := lex_infinity false
  rw [htext] at hagain
  cases hagain.symm.trans hother
  rw [hkinds] at hnames
  cases hnames

end ExprLang
