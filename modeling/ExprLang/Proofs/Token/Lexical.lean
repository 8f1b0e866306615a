import ExprLang.Proofs.Token.Layout

/-!
# What a text is read as

Not every list of tokens is read from a text: a constant has a sign only where no operand has just ended, no float is
not a number, and a name or a reserved word is the token of its letters (`CanFollow`, `Lexical`). The scanner finds no
constants with a sign (`canFollow_of_head`), and signs are joined to constants only where they can be, both while
scanning (`lexical_scanFrom`) and afterwards (`lexical_joinSigns`).
-/

namespace ExprLang

open Lexeme (recognise)
open Digits (isDigit)

variable {cs : List Char} {l : Lexeme} {n pos : Nat} {t : Token} {T : List Token} {ended : Bool}
  {tokens before : List SpannedToken} {last : Option Token}

/-! ### The rule of a lexeme -/

namespace Lexeme

/-- The rules by which a kind of lexeme is recognised. -/
def rulesFor : Lexeme → List Rule
  | blank => [blanks, comment]
  | integer _ | unsigned _ => [decimal, hexadecimal]
  | float => [real]
  | quoted _ => [literalOpening]
  | word => [words]
  | sign _ => [symbols]

private theorem longer_eq_some {a b : Option (Lexeme × Nat)} {x : Lexeme × Nat} (h : longer a b = some x) :
    a = some x ∨ b = some x := by
  unfold longer at h
  split at h
  · split at h
    · exact .inr h
    · exact .inl h
  · exact .inl h
  · exact .inr h

/-- The longest match is that of some rule, or the best one before them all. -/
private theorem exists_rule {x : Lexeme × Nat} (rs : List Rule) {best : Option (Lexeme × Nat)}
    (h : rs.foldl (fun best rule => longer best (rule cs)) best = some x) :
    best = some x ∨ ∃ rule ∈ rs, rule cs = some x := by
  induction rs generalizing best with
  | nil => exact .inl h
  | cons rule rs ih =>
    rcases ih h with hbest | ⟨rule', hmem, hrule'⟩
    · rcases longer_eq_some hbest with hbest | hrule
      · exact .inl hbest
      · exact .inr ⟨rule, List.mem_cons_self, hrule⟩
    · exact .inr ⟨rule', List.mem_cons_of_mem _ hmem, hrule'⟩

private theorem rulesFor_of_digits {base : Nat} (h : digits base cs = some (l, n)) :
    l.rulesFor = [decimal, hexadecimal] := by
  unfold digits at h
  dsimp only at h
  split at h
  · cases h
  · split at h <;> (cases h; rfl)

private theorem rulesFor_of_opening {isBytes isRaw : Bool} {count : Nat}
    (h : opening isBytes isRaw count cs = some (l, n)) : l.rulesFor = [literalOpening] := by
  rw [opening, Option.map_eq_some_iff] at h
  obtain ⟨⟨q, tripled⟩, -, h⟩ := h
  dsimp only at h
  split at h <;> (cases h; rfl)

private theorem rulesFor_of_literalOpening (h : literalOpening cs = some (l, n)) : l.rulesFor = [literalOpening] := by
  unfold literalOpening at h
  split at h
  · cases h
  · split at h
    · exact rulesFor_of_opening h
    · split at h
      · split at h <;> exact rulesFor_of_opening h
      · exact rulesFor_of_opening h

private theorem rulesFor_of_hexadecimal (h : hexadecimal cs = some (l, n)) : l.rulesFor = [decimal, hexadecimal] := by
  have step {ds : List Char} {f : Lexeme × Nat → Lexeme × Nat} (hf : ∀ x, (f x).1 = x.1)
      (h : (digits 16 ds).map f = some (l, n)) : l.rulesFor = [decimal, hexadecimal] := by
    obtain ⟨⟨k, m⟩, hdigits, hx⟩ := Option.map_eq_some_iff.mp h
    obtain rfl : l = k := (congrArg Prod.fst hx).symm.trans (hf (k, m))
    exact rulesFor_of_digits hdigits
  unfold hexadecimal at h
  split at h
  · exact step (by intro x; rfl) h
  · exact step (by intro x; rfl) h
  · cases h

private theorem real_eq_some (h : real cs = some (l, n)) : l = float ∧ 0 < n := by
  unfold real at h
  dsimp only at h
  split at h
  · split at h
    · cases h
      exact ⟨rfl, by omega⟩
    · split at h
      · cases h
        exact ⟨rfl, by omega⟩
      · cases h
  · rw [if_neg (by simp)] at h
    split at h
    · cases h
      exact ⟨rfl, by omega⟩
    · cases h

/-- A lexeme is recognised by one of its rules. -/
theorem rule_of_recognise (h : recognise cs = some (l, n)) : ∃ rule ∈ l.rulesFor, rule cs = some (l, n) := by
  obtain h | ⟨rule, hmem, hrule⟩ := exists_rule rules h
  · cases h
  · refine ⟨rule, ?_, hrule⟩
    simp only [rules, List.mem_cons, List.not_mem_nil, or_false] at hmem
    rcases hmem with rfl | rfl | rfl | rfl | rfl | rfl | rfl | rfl
    · unfold blanks at hrule
      dsimp only at hrule
      split at hrule <;> cases hrule
      exact List.mem_cons_self
    · unfold comment at hrule
      split at hrule <;> cases hrule
      exact List.mem_cons_of_mem _ List.mem_cons_self
    · rw [rulesFor_of_digits hrule]
      exact List.mem_cons_self
    · rw [rulesFor_of_hexadecimal hrule]
      exact List.mem_cons_of_mem _ List.mem_cons_self
    · obtain ⟨rfl, -⟩ := real_eq_some hrule
      exact List.mem_cons_self
    · rw [rulesFor_of_literalOpening hrule]
      exact List.mem_cons_self
    · unfold words at hrule
      split at hrule
      · split at hrule <;> cases hrule
        exact List.mem_cons_self
      · cases hrule
    · unfold symbols at hrule
      rw [Option.map_eq_some_iff] at hrule
      obtain ⟨s, -, hrule⟩ := hrule
      cases hrule
      exact List.mem_cons_self

/-- A lexeme that one rule alone gives is a match of that rule. -/
theorem match_of_recognise {rule : Rule} (hrules : l.rulesFor = [rule]) (h : recognise cs = some (l, n)) :
    rule cs = some (l, n) := by
  obtain ⟨rule', hmem, hrule⟩ := rule_of_recognise h
  rw [hrules, List.mem_singleton] at hmem
  rwa [← hmem]

theorem match_or_match_of_recognise {first second : Rule} (hrules : l.rulesFor = [first, second])
    (h : recognise cs = some (l, n)) : first cs = some (l, n) ∨ second cs = some (l, n) := by
  obtain ⟨rule, hmem, hrule⟩ := rule_of_recognise h
  rw [hrules, List.mem_cons, List.mem_singleton] at hmem
  rcases hmem with rfl | rfl
  · exact .inl hrule
  · exact .inr hrule

/-- A numeral with a point or an exponent begins with a digit or with the point. -/
theorem exists_take_of_float (h : recognise cs = some (float, n)) :
    ∃ c ds, cs.take n = c :: ds ∧ (isDigit 10 c = true ∨ c = '.') := by
  have hrule : real cs = _ := match_of_recognise rfl h
  cases cs with
  | nil => cases hrule
  | cons c cs =>
    have hc : isDigit 10 c = true ∨ c = '.' := by
      by_contra hnot
      rw [not_or, Bool.not_eq_true] at hnot
      rw [real_eq_none hnot.1 hnot.2] at hrule
      cases hrule
    obtain ⟨n, rfl⟩ := Nat.exists_eq_succ_of_ne_zero (real_eq_some hrule).2.ne'
    exact ⟨c, cs.take n, List.take_succ_cons, hc⟩

theorem exists_take_of_word (h : recognise cs = some (word, n)) :
    ∃ c ds, cs.take n = c :: ds ∧ isLetter c = true ∧ ∀ d ∈ ds, isWordChar d = true := by
  have hrule : words cs = _ := match_of_recognise rfl h
  cases cs with
  | nil => cases hrule
  | cons c cs =>
    rw [words] at hrule
    split at hrule
    · rename_i hc
      cases hrule
      have htake : cs.take (cs.takeWhile isWordChar).length = cs.takeWhile isWordChar := by
        rw [← List.prefix_iff_eq_take.mp (List.takeWhile_prefix isWordChar)]
      rw [Nat.add_comm, List.take_succ_cons, htake]
      exact ⟨c, _, rfl, hc, fun d hd => List.mem_takeWhile_imp hd⟩
    · cases hrule

end Lexeme

/-! ### Tokens that can follow -/

/-- No float in the literal is not a number. -/
def Literal.IsNumber : Literal → Prop
  | float f => Binary64.ofFloat f ≠ .nan
  | _ => True

namespace Token

/-- The token is that of a word. -/
def IsWord (t : Token) : Prop :=
  ∃ c ds, Lexeme.isLetter c = true ∧ (∀ d ∈ ds, Lexeme.isWordChar d = true) ∧ t = .ofWord (String.ofList (c :: ds))

/-- Whether a token can be read where an operand has just ended or has not. -/
def CanFollow (ended : Bool) : Token → Prop
  | literal l => l.IsNumber ∧ (l.isSigned = true → ended = false)
  | name s => IsWord (name s)
  | reserved s => IsWord (reserved s)
  | symbol _ => True

end Token

open Token (CanFollow)

/-- The tokens can stand one behind the other in what a text is read as. -/
def Lexical (ended : Bool) : List Token → Prop
  | [] => True
  | t :: T => t.CanFollow ended ∧ Lexical t.endsOperand T

/-! ### Tokens of the scanner -/

private theorem canFollow_integer (h : Lexeme.integerToken? cs = some t) : t.CanFollow ended := by
  rw [Lexeme.integerToken?, Option.bind_eq_some_iff] at h
  obtain ⟨n, -, h⟩ := h
  split at h
  · rename_i hn
    cases h
    have hlt : n < 2 ^ 63 := hn
    refine ⟨trivial, fun hneg => ?_⟩
    have := of_decide_eq_true hneg
    rw [Int64.toInt_ofNat_of_lt hlt] at this
    omega
  · cases h

private theorem canFollow_unsigned (h : Lexeme.unsignedToken? cs = some t) : t.CanFollow ended := by
  rw [Lexeme.unsignedToken?, Option.bind_eq_some_iff] at h
  obtain ⟨n, -, h⟩ := h
  split at h
  · cases h
    refine ⟨trivial, fun h => ?_⟩
    cases h
  · cases h

/-- A numeral is rounded to a number without sign. -/
private theorem canFollow_float {f : Float} (hrec : recognise cs = some (.float, n))
    (h : Decimal.readFloat? (cs.take n) = some f) : (Token.literal (.float f)).CanFollow ended := by
  obtain ⟨c, ds, htake, hc⟩ := Lexeme.exists_take_of_float hrec
  rw [htake, Decimal.readFloat?_cons hc, Option.map_eq_some_iff] at h
  obtain ⟨d, -, rfl⟩ := h
  obtain ⟨hnumber, hsign⟩ : Binary64.ofFloat (Decimal.toFloat false d) ≠ .nan ∧
      Binary64.signBit (Decimal.toFloat false d) = false := by
    rw [Decimal.toFloat]
    obtain h | ⟨m, e, h⟩ := Binary64.ofFloat_withSign_of_le d.toBits_le
    · exact ⟨by simp [h], Binary64.signBit_of_infinite h⟩
    · exact ⟨by simp [h], Binary64.signBit_of_finite h⟩
  refine ⟨hnumber, fun h => ?_⟩
  rw [Literal.isSigned, hsign] at h
  cases h

private theorem canFollow_quoted {o : Opening} {rest : List Char} (h : Lexeme.quotedToken? o cs = some (t, rest)) :
    t.CanFollow ended := by
  have hcontent (s : String) (bs : List UInt8) :
      (Token.literal (if o.isBytes then .bytes bs else .string s)).CanFollow ended := by
    split <;> exact ⟨trivial, nofun⟩
  have hmap {α : Type} {body : Option α} {f : α → Token × List Char} (hf : ∀ a, (f a).1.CanFollow ended)
      (h : body.map f = some (t, rest)) : t.CanFollow ended := by
    obtain ⟨a, -, ha⟩ := Option.map_eq_some_iff.mp h
    have := hf a
    rwa [ha] at this
  unfold Lexeme.quotedToken? at h
  split at h
  · exact hmap (fun _ => hcontent _ _) h
  · exact hmap (fun _ => hcontent _ _) h
  · exact hmap (fun _ => hcontent _ _) h

private theorem canFollow_word (hrec : recognise cs = some (.word, n)) :
    (Token.ofWord (String.ofList (cs.take n))).CanFollow ended := by
  obtain ⟨c, ds, htake, hc, hds⟩ := Lexeme.exists_take_of_word hrec
  rw [htake]
  have hword : (Token.ofWord (String.ofList (c :: ds))).IsWord := ⟨c, ds, hc, hds, rfl⟩
  unfold Token.ofWord at hword ⊢
  split_ifs at hword ⊢
  · exact ⟨trivial, nofun⟩
  · exact ⟨trivial, nofun⟩
  · exact ⟨trivial, nofun⟩
  · trivial
  · exact hword
  · exact hword

/-- A token of the scanner can follow anything. -/
theorem canFollow_of_head (h : Scan.head cs = .token t n) (ended : Bool) : t.CanFollow ended := by
  have hnumber {o : Option Token} {k : Nat} (h : Scan.ofToken? o k = .token t n) : o = some t := by
    cases o with
    | none => cases h
    | some u =>
      cases h
      rfl
  unfold Scan.head at h
  split at h
  · cases h
  · cases h
  · exact canFollow_integer (hnumber h)
  · exact canFollow_unsigned (hnumber h)
  · rename_i hrec
    obtain ⟨f, hf, rfl⟩ := Option.map_eq_some_iff.mp (hnumber h)
    exact canFollow_float hrec hf
  · split at h
    · rename_i htoken
      cases h
      exact canFollow_quoted htoken
    · cases h
  · rename_i hrec
    cases h
    exact canFollow_word hrec
  · cases h
    trivial

/-! ### Joined tokens -/

private theorem lexical_concat : Lexical ended (T ++ [t]) ↔
    Lexical ended T ∧ t.CanFollow (T.getLast?.elim ended Token.endsOperand) := by
  induction T generalizing ended with
  | nil => simp [Lexical]
  | cons u T ih =>
    rw [List.cons_append, Lexical, Lexical, ih, and_assoc, List.getLast?_cons]
    cases hlast : T.getLast? with
    | none => rfl
    | some v => rfl

/-- A token read behind others, the last of which stands first. -/
private theorem lexical_reverse_cons {u : SpannedToken} :
    Lexical false ((u :: before).map Prod.fst).reverse ↔
      Lexical false (before.map Prod.fst).reverse ∧ u.1.CanFollow (before.head?.any fun t => t.1.endsOperand) := by
  rw [List.map_cons, List.reverse_cons, lexical_concat, List.getLast?_reverse]
  cases before with
  | nil => rfl
  | cons v before => rfl

private theorem joinLeast?_eq_some {text : List Char} {span : Span} {joined : List SpannedToken}
    (h : Lexer.joinLeast? tokens text span = some joined) : ∃ sign before,
      tokens = (.symbol .minus, sign) :: before ∧ before.head?.any (fun t => t.1.endsOperand) = false ∧
      joined = (.literal (.int Int64.minValue), sign.through span) :: before := by
  unfold Lexer.joinLeast? at h
  split at h
  · split at h
    · split at h
      · rename_i hjoin
        cases h
        exact ⟨_, _, rfl, by simpa using hjoin.2, rfl⟩
      · cases h
    · cases h
  · cases h

/-- What has been read stays lexical: a token is put behind it, or the least integer in place of a sign that no operand
stands in front of. -/
theorem lexical_scanFrom (hbefore : Lexical false (before.map Prod.fst).reverse)
    (h : Lexer.scanFrom pos before cs = .ok tokens) : Lexical false (tokens.map Prod.fst) := by
  fun_induction Lexer.scanFrom pos before cs with
  | case1 pos before =>
    cases h
    rwa [List.map_reverse]
  | case2 pos before c cs n hhead ih => exact ih hbefore h
  | case3 pos before c cs t n hhead stop ih =>
    exact ih (lexical_reverse_cons.mpr ⟨hbefore, canFollow_of_head hhead _⟩) h
  | case4 pos before c cs n hhead text stop joined hjoin ih =>
    obtain ⟨sign, before, rfl, hlast, rfl⟩ := joinLeast?_eq_some hjoin
    exact ih (lexical_reverse_cons.mpr ⟨(lexical_reverse_cons.mp hbefore).1, trivial, fun _ => hlast⟩) h
  | case5 => cases h

private theorem isNumber_of_negated? {l k : Literal} (hl : l.IsNumber) (h : l.negated? = some k) : k.IsNumber := by
  unfold Literal.negated? at h
  split at h
  · split at h <;> cases h
    trivial
  · cases h
    rename_i f
    have hne : Binary64.ofFloat f ≠ .nan := hl
    show Binary64.ofFloat (-f) ≠ .nan
    rw [Binary64.ofFloat_neg]
    cases hf : Binary64.ofFloat f with
    | nan => exact absurd hf hne
    | infinite => nofun
    | finite => nofun
  · cases h

/-- Signs are joined to constants where no operand has just ended. -/
theorem lexical_joinSigns (h : Lexical (last.any Token.endsOperand) (tokens.map Prod.fst)) :
    Lexical (last.any Token.endsOperand) ((Lexer.joinSigns last tokens).map Prod.fst) := by
  fun_induction Lexer.joinSigns last tokens with
  | case1 => trivial
  | case2 => exact h
  | case3 last s r rest l k hjoin ih =>
    obtain ⟨-, hl, hrest⟩ := h
    split at hjoin
    · cases hjoin
    · rename_i hnot
      have hlast : last.any Token.endsOperand = false := Bool.eq_false_iff.mpr fun hend => hnot (.inl hend)
      exact ⟨⟨isNumber_of_negated? hl.1 hjoin, fun _ => hlast⟩, ih hrest⟩
  | case4 last s r rest l hjoin ih => exact ⟨h.1, ih h.2⟩
  | case5 last t s u r rest hnot ih => exact ⟨h.1, ih h.2⟩

theorem lexical_of_lex {source : String} (h : lex source = .ok tokens) : Lexical false (tokens.map Prod.fst) := by
  rw [lex] at h
  cases hscan : Lexer.scanFrom 0 [] source.toList with
  | error e =>
    rw [hscan] at h
    cases h
  | ok raw =>
    rw [hscan] at h
    cases h
    have hnone : Lexical false (([] : List SpannedToken).map Prod.fst).reverse := trivial
    exact @lexical_joinSigns raw none (lexical_scanFrom hnone hscan)

end ExprLang
