import ExprLang.Proofs.Token.Fragment

/-!
# Byte strings from texts

A text literal with the letter of byte strings in front of it is a byte string: their openings correspond to each other
form by form (`recognise_prefixed`), and the bodies give the bytes of the text where no escape names a byte beyond ASCII
(`quotedToken?_asBytes`). The raw form with tripled quotes is the exception. Byte strings do not have it, so the first
quotes end an empty byte string (`head_rawTripled`), and other tokens stand behind it.
-/

namespace ExprLang

variable {cs rest : List Char} {o : Opening} {k n : Nat} {q r letter : Char} {t : Token} {s : String}

namespace Lexeme

/-! ### The forms of text literals -/

def IsQuote (c : Char) : Prop := c = '"' ∨ c = '\x27'

/-- The letter of raw literals. -/
def IsRawLetter (c : Char) : Prop := c = 'r' ∨ c = 'R'

/-- The letter of byte strings. -/
def IsBytesLetter (c : Char) : Prop := c = 'b' ∨ c = 'B'

/-- The text begins with a raw letter and three quotes. -/
def RawTripled (cs : List Char) : Prop :=
  ∃ r q rest, IsRawLetter r ∧ IsQuote q ∧ cs = r :: q :: q :: q :: rest

/-- The text begins with the opening of a text literal, which is `k` characters long. -/
inductive TextOpening : List Char → Opening → Nat → Prop
  | quoted {q : Char} {rest : List Char} (hq : IsQuote q) (h : [q, q].isPrefixOf rest = false) :
      TextOpening (q :: rest) ⟨false, .escaped, q⟩ 1
  | tripled {q : Char} {rest : List Char} (hq : IsQuote q) : TextOpening (q :: q :: q :: rest) ⟨false, .verbatim, q⟩ 3
  | raw {r q : Char} {rest : List Char} (hr : IsRawLetter r) (hq : IsQuote q) (h : [q, q].isPrefixOf rest = false) :
      TextOpening (r :: q :: rest) ⟨false, .raw, q⟩ 2
  | rawTripled {r q : Char} {rest : List Char} (hr : IsRawLetter r) (hq : IsQuote q) :
      TextOpening (r :: q :: q :: q :: rest) ⟨false, .verbatim, q⟩ 4

private theorem quote?_cons (hq : IsQuote q) (rest : List Char) :
    quote? (q :: rest) = some (q, [q, q].isPrefixOf rest) := if_pos hq

private theorem eq_of_quote? {tripled : Bool} (h : quote? cs = some (q, tripled)) :
    ∃ rest, cs = q :: rest ∧ IsQuote q ∧ [q, q].isPrefixOf rest = tripled := by
  cases cs with
  | nil => cases h
  | cons c rest =>
    rw [quote?] at h
    split at h
    · rename_i hc
      cases h
      exact ⟨rest, rfl, hc, rfl⟩
    · cases h

private theorem isBytes_of_opening {isBytes isRaw : Bool} {count : Nat}
    (h : opening isBytes isRaw count cs = some (.quoted o, k)) : o.isBytes = isBytes := by
  obtain ⟨⟨q, tripled⟩, -, hx⟩ := Option.map_eq_some_iff.mp h
  dsimp only at hx
  split at hx <;> (cases hx; rfl)

/-- A text literal is opened by one quote or, raw or not, by three. -/
private theorem quotes_of_opening {isRaw : Bool} {count : Nat}
    (h : opening false isRaw count cs = some (.quoted o, k)) :
    ∃ q rest, IsQuote q ∧ cs.drop count = q :: rest ∧
      (([q, q].isPrefixOf rest = false ∧ o = ⟨false, if isRaw then .raw else .escaped, q⟩ ∧ k = count + 1) ∨
        ∃ rest', rest = q :: q :: rest' ∧ o = ⟨false, .verbatim, q⟩ ∧ k = count + 3) := by
  obtain ⟨⟨q, tripled⟩, hquote, hx⟩ := Option.map_eq_some_iff.mp h
  obtain ⟨rest, hcs, hq, htripled⟩ := eq_of_quote? hquote
  refine ⟨q, rest, hq, hcs, ?_⟩
  cases tripled with
  | false =>
    cases hx
    exact .inl ⟨htripled, rfl, rfl⟩
  | true =>
    obtain ⟨rest', hrest⟩ := List.isPrefixOf_iff_prefix.mp htripled
    cases hx
    exact .inr ⟨rest', hrest.symm, rfl, rfl⟩

/-- What opens a text literal has one of the forms. -/
theorem textOpening_of_recognise (h : recognise cs = some (.quoted o, k)) (ho : o.isBytes = false) :
    TextOpening cs o k := by
  have hrule : literalOpening cs = _ := match_of_recognise rfl h
  cases cs with
  | nil => cases hrule
  | cons c cs =>
    rw [literalOpening_cons] at hrule
    split at hrule
    · rename_i hc
      obtain ⟨q, rest, hq, hcs, ⟨hone, rfl, rfl⟩ | ⟨rest', rfl, rfl, rfl⟩⟩ := quotes_of_opening hrule
      · obtain rfl : cs = q :: rest := hcs
        exact .raw hc hq hone
      · obtain rfl : cs = q :: q :: q :: rest' := hcs
        exact .rawTripled hc hq
    · split at hrule
      · have hbytes : o.isBytes = true := by
          split at hrule <;> exact isBytes_of_opening hrule
        rw [ho] at hbytes
        cases hbytes
      · obtain ⟨q, rest, hq, hcs, ⟨hone, rfl, rfl⟩ | ⟨rest', rfl, rfl, rfl⟩⟩ := quotes_of_opening hrule
        · cases hcs
          exact .quoted hq hone
        · cases hcs
          exact .tripled hq

/-! ### Openings behind the letter of byte strings -/

private theorem literalOpening_of_bytesLetter (hletter : IsBytesLetter letter) (cs : List Char) :
    literalOpening (letter :: cs) =
      if rawAhead cs then opening true true 2 (letter :: cs) else opening true false 1 (letter :: cs) := by
  have hraw : ¬ (letter = 'r' ∨ letter = 'R') := by
    rcases hletter with rfl | rfl <;> decide
  rw [literalOpening_cons, if_neg hraw]
  exact if_pos hletter

private theorem rawAhead_quote (hq : IsQuote q) (rest : List Char) : rawAhead (q :: rest) = false := by
  rcases hq with rfl | rfl <;> rfl

private theorem rawAhead_rawLetter (hr : IsRawLetter r) (rest : List Char) : rawAhead (r :: rest) = true := by
  rcases hr with rfl | rfl <;> rfl

private theorem takeWhile_quote (hq : IsQuote q) (rest : List Char) : (q :: rest).takeWhile isWordChar = [] := by
  rcases hq with rfl | rfl <;> rfl

private theorem takeWhile_rawLetter (hr : IsRawLetter r) (hq : IsQuote q) (rest : List Char) :
    (r :: q :: rest).takeWhile isWordChar = [r] := by
  have hword : isWordChar r = true := by
    rcases hr with rfl | rfl <;> decide
  rw [List.takeWhile_cons_of_pos hword, takeWhile_quote hq]

/-- The opening of a byte string is longer than the word that its letters are. -/
private theorem recognise_of_bytesLetter {l : Lexeme} (hletter : IsBytesLetter letter)
    (hopening : literalOpening (letter :: cs) = some (l, n)) (hword : (cs.takeWhile isWordChar).length < n) :
    recognise (letter :: cs) = some (l, n) := by
  have hwords : words (letter :: cs) = some (.word, 1 + (cs.takeWhile isWordChar).length) := by
    rcases hletter with rfl | rfl <;> rfl
  have hsymbols : symbols (letter :: cs) = none := by
    refine symbols_eq_none ?_
    rcases hletter with rfl | rfl <;> decide +kernel
  have hbest : longer (some (l, n)) (words (letter :: cs)) = some (l, n) := by
    rw [hwords]
    exact if_neg (by omega)
  rw [recognise_eq, hopening, hsymbols, longer_none]
  rcases hletter with rfl | rfl <;> exact hbest

/-- A raw byte string is opened by one quote, whatever stands behind it. -/
theorem recognise_rawBytes (hletter : IsBytesLetter letter) (hr : IsRawLetter r) (hq : IsQuote q) (rest : List Char) :
    recognise (letter :: r :: q :: rest) = some (.quoted ⟨true, .raw, q⟩, 3) := by
  refine recognise_of_bytesLetter hletter ?_ (by simp [takeWhile_rawLetter hr hq])
  rw [literalOpening_of_bytesLetter hletter, if_pos (rawAhead_rawLetter hr _)]
  simp [opening, quote?_cons hq]

/-- What the letter of byte strings stands in front of is opened as a byte string in the same form, one character
further on. -/
theorem recognise_prefixed (hletter : IsBytesLetter letter) (h : TextOpening cs o k) (hraw : ¬ RawTripled cs) :
    recognise (letter :: cs) = some (.quoted { o with isBytes := true }, k + 1) := by
  cases h with
  | quoted hq h =>
    refine recognise_of_bytesLetter hletter ?_ (by simp [takeWhile_quote hq])
    rw [literalOpening_of_bytesLetter hletter, rawAhead_quote hq]
    simp [opening, quote?_cons hq, h]
  | tripled hq =>
    refine recognise_of_bytesLetter hletter ?_ (by simp [takeWhile_quote hq])
    rw [literalOpening_of_bytesLetter hletter, rawAhead_quote hq]
    simp [opening, quote?_cons hq]
  | raw hr hq h => exact recognise_rawBytes hletter hr hq _
  | rawTripled hr hq => exact absurd ⟨_, _, _, hr, hq, rfl⟩ hraw

/-- Whatever stands behind a quote, it opens a literal. -/
private theorem exists_quoted_of_quote (hq : IsQuote q) (rest : List Char) :
    ∃ o n, recognise (q :: rest) = some (.quoted o, n) := by
  obtain ⟨o, n, hopening⟩ : ∃ o n, literalOpening (q :: rest) = some (.quoted o, n) := by
    have hplain : literalOpening (q :: rest) = opening false false 0 (q :: rest) := by
      rcases hq with rfl | rfl <;> rfl
    rw [hplain, opening, List.drop_zero, quote?_cons hq, Option.map_some]
    dsimp only
    split
    · exact ⟨_, _, rfl⟩
    · exact ⟨_, _, rfl⟩
  refine ⟨o, n, ?_⟩
  rw [recognise_eq, hopening]
  rcases hq with rfl | rfl <;> rfl

/-! ### Bodies -/

/-- A hexadecimal or octal escape in the text literal names the number. -/
def Escapes (cs : List Char) (b : UInt8) : Prop :=
  ∃ q n ps rest, recognise cs = some (.quoted ⟨false, .escaped, q⟩, n) ∧
    Quoted.decode q (cs.drop n) = some (ps, rest) ∧ .code b ∈ ps

/-- Pieces give the bytes of the text that they give when their numbers are those of ASCII characters. -/
private theorem toBytes_pieces {ps : List Piece} (h : ∀ b, .code b ∈ ps → b < 0x80) :
    ps.flatMap Piece.toBytes = Utf8.encode (ps.map Piece.toChar) := by
  rw [Utf8.encode, List.flatMap_map]
  refine List.flatMap_congr fun p hp => ?_
  cases p with
  | char c => rfl
  | code b => exact (Quoted.utf8EncodeChar_ofUInt8 (h b hp)).symm

/-- The body of a text gives its bytes in a byte string. -/
theorem quotedToken?_asBytes (ho : o.isBytes = false) (h : quotedToken? o cs = some (.literal (.string s), rest))
    (hcodes : ∀ ps, o.body = .escaped → Quoted.decode o.quote cs = some (ps, rest) → ∀ b, .code b ∈ ps → b < 0x80) :
    quotedToken? { o with isBytes := true } cs = some (.literal (.bytes (Utf8.encode s.toList)), rest) := by
  obtain ⟨isBytes, body, quote⟩ := o
  obtain rfl : isBytes = false := ho
  cases body with
  | escaped =>
    obtain ⟨⟨ps, rest'⟩, hdecode, hx⟩ := Option.map_eq_some_iff.mp h
    cases hx
    have hbytes := toBytes_pieces (hcodes ps rfl hdecode)
    simp [quotedToken?, hdecode, hbytes]
  | raw =>
    obtain ⟨⟨body, rest'⟩, hraw, hx⟩ := Option.map_eq_some_iff.mp h
    cases hx
    simp [quotedToken?, quotedToken?.ofBody, hraw]
  | verbatim =>
    obtain ⟨⟨body, rest'⟩, hverbatim, hx⟩ := Option.map_eq_some_iff.mp h
    cases hx
    simp [quotedToken?, quotedToken?.ofBody, hverbatim]

end Lexeme

/-! ### Tokens -/

open Lexeme (recognise quotedToken? IsBytesLetter RawTripled)

/-- A text that is one token. -/
theorem lex_of_head (hne : cs ≠ []) (h : Scan.head cs = .token t cs.length) :
    lex (String.ofList cs) = .ok [(t, ⟨0, Utf8.size cs⟩)] := by
  have hhead : Scan.head (cs ++ []) = .token t cs.length := by rwa [List.append_nil]
  have hscan : Lexer.scanFrom 0 [] (cs ++ []) =
      Lexer.scanFrom (0 + Utf8.size cs) [(t, ⟨0, 0 + Utf8.size cs⟩)] [] := Lexer.scanFrom_token hne hhead
  rw [List.append_nil, Nat.zero_add] at hscan
  rw [lex, String.toList_ofList, hscan, Lexer.scanFrom.eq_def]
  rfl

/-- A text literal that is the whole text stands at its head. -/
theorem head_of_lex_string {source : String}
    (h : lex source = .ok [(.literal (.string s), ⟨0, Utf8.size source.toList⟩)]) :
    source.toList ≠ [] ∧ Scan.head source.toList = .token (.literal (.string s)) source.toList.length := by
  cases isFragment_of_lex h with
  | mark hw ht => exact ⟨ne_nil_of_stands hw, scan_head_of_stands hw ht⟩
  | joined _ _ hx _ =>
    -- a sign is joined to numbers only
    unfold Mark.negated? at hx
    split at hx <;> cases hx

private theorem body_of_head (h : Scan.head cs = .token (.literal (.string s)) n) :
    ∃ o k rest, recognise cs = some (.quoted o, k) ∧ quotedToken? o (cs.drop k) = some (.literal (.string s), rest) ∧
      n = cs.length - rest.length := by
  generalize ht : Token.literal (.string s) = t at h
  cases Scan.tokenOf_head h with
  | string hrec hbody =>
    cases ht
    exact ⟨_, _, _, hrec, hbody, rfl⟩
  | word hrec =>
    unfold Token.ofWord at ht
    split_ifs at ht <;> cases ht
  | _ => cases ht

private theorem isBytes_of_quotedToken? (h : quotedToken? o cs = some (.literal (.string s), rest)) :
    o.isBytes = false := by
  rw [Bool.eq_false_iff]
  intro ho
  obtain ⟨t, bs, ht⟩ := Lexeme.exists_literal_of_quotedToken? h
  rw [ho] at ht
  cases ht

/-- Behind the letter a text literal gives the bytes of its text. -/
theorem head_prefixed (hletter : IsBytesLetter letter) (hne : cs ≠ [])
    (h : Scan.head cs = .token (.literal (.string s)) cs.length) (hcodes : ∀ b, Lexeme.Escapes cs b → b < 0x80)
    (hraw : ¬ RawTripled cs) :
    Scan.head (letter :: cs) = .token (.literal (.bytes (Utf8.encode s.toList))) (letter :: cs).length := by
  obtain ⟨o, k, rest, hrec, hbody, hlen⟩ := body_of_head h
  have ho := isBytes_of_quotedToken? hbody
  obtain rfl : rest = [] := by
    have hpos : 0 < cs.length := List.length_pos_of_ne_nil hne
    exact List.eq_nil_of_length_eq_zero (by omega)
  have hbytes := Lexeme.quotedToken?_asBytes ho hbody fun ps hescaped hdecode b hb => by
    refine hcodes b ⟨o.quote, k, ps, [], ?_, hdecode, hb⟩
    rw [hrec, ← ho, ← hescaped]
  rw [Scan.head, Lexeme.recognise_prefixed hletter (Lexeme.textOpening_of_recognise hrec ho) hraw]
  dsimp only
  rw [List.drop_succ_cons, hbytes]
  rfl

/-- With three quotes behind a raw letter the byte string is empty. -/
theorem head_rawTripled (hletter : IsBytesLetter letter) (hr : Lexeme.IsRawLetter r) (hq : Lexeme.IsQuote q) :
    Mark.head (letter :: r :: q :: q :: q :: rest) = (some (.token (.literal (.bytes []))), 4) := by
  have hrec := Lexeme.recognise_rawBytes hletter hr hq (q :: q :: rest)
  have hbody : quotedToken? ⟨true, .raw, q⟩ (q :: q :: rest) = some (.literal (.bytes []), q :: rest) := by
    simp [quotedToken?, Quoted.raw, Lexeme.quotedToken?.ofBody]
  rw [Mark.head, hrec]
  dsimp only
  rw [Scan.head, hrec]
  dsimp only
  rw [List.drop_succ_cons, List.drop_succ_cons, List.drop_succ_cons, List.drop_zero, hbody]
  simp

/-- The opening of a literal is a mark, even if no literal follows. -/
private theorem exists_mark_of_quoted (hrec : recognise cs = some (.quoted o, k)) :
    ∃ m n, Mark.head cs = (some m, n) := by
  have hscan : ∀ n, Scan.head cs ≠ .blank n := by
    intro n
    rw [Scan.head, hrec]
    dsimp only
    split <;> rintro ⟨⟩
  rw [Mark.head, hrec]
  dsimp only
  split
  · rename_i hblank
    exact absurd hblank (hscan _)
  · exact ⟨_, _, rfl⟩
  · exact ⟨_, _, rfl⟩

/-- With three quotes behind a raw letter a byte string is not all that is read. -/
theorem exists_tokens_rawTripled {tokens : List SpannedToken} (hletter : IsBytesLetter letter) (hraw : RawTripled cs)
    (h : lex (String.ofList (letter :: cs)) = .ok tokens) :
    ∃ more, tokens = (.literal (.bytes []), ⟨0, 4⟩) :: more ∧ more ≠ [] := by
  obtain ⟨r, q, rest, hr, hq, rfl⟩ := hraw
  have hspan : Utf8.size [letter, r, q, q] = 4 := by
    rcases hletter with rfl | rfl <;> rcases hr with rfl | rfl <;> rcases hq with rfl | rfl <;> decide
  have hsettle := (lex_eq_ok_iff _).mp h
  have hminus {ended : Bool} {s : Span} {marks : List SpannedMark} :
      joinBy Mark.negated? ended ((.token (.literal (.bytes [])), s) :: marks) =
        (.token (.literal (.bytes [])), s) :: joinBy Mark.negated? true marks :=
    joinBy_cons fun _ _ hminus => by cases hminus
  rw [marksFrom_mark (head_rawTripled hletter hr hq), hminus] at hsettle
  obtain ⟨t, more, ht, hmore, rfl⟩ := settle_eq_ok hsettle
  cases ht
  refine ⟨more, ?_, ?_⟩
  · simp only [List.take_succ_cons, List.take_zero, hspan, Nat.zero_add]
  · obtain ⟨o, n, hrec⟩ := Lexeme.exists_quoted_of_quote hq rest
    obtain ⟨m, n, hmark⟩ := exists_mark_of_quoted hrec
    rintro rfl
    simp only [Nat.add_one_sub_one, List.drop_succ_cons, List.drop_zero] at hmore
    rw [marksFrom_mark hmark, joinBy_cons (fun _ _ _ hended => by cases hended)] at hmore
    obtain ⟨_, _, _, _, hnil⟩ := settle_eq_ok hmore
    cases hnil

/-- A text literal with the letter of byte strings in front is one token, the bytes of its text, if no escape in it
names a number above those of ASCII. Only a raw literal with tripled quotes is read otherwise: as an empty byte string
and what is left. -/
theorem lex_prefixed (source s : String) (letter : Char)
    (h : lex source = .ok [(.literal (.string s), ⟨0, Utf8.size source.toList⟩)])
    (hcodes : ∀ b, Lexeme.Escapes source.toList b → b < 0x80) (hletter : letter = 'b' ∨ letter = 'B') :
    (¬ RawTripled source.toList → lex (String.ofList (letter :: source.toList)) =
      .ok [(.literal (.bytes (Utf8.encode s.toList)), ⟨0, 1 + Utf8.size source.toList⟩)]) ∧
    (RawTripled source.toList → ∀ tokens, lex (String.ofList (letter :: source.toList)) = .ok tokens →
      ∃ more, tokens = (.literal (.bytes []), ⟨0, 4⟩) :: more ∧ more ≠ []) := by
  obtain ⟨hne, hhead⟩ := head_of_lex_string h
  have hsize : letter.utf8Size = 1 := by
    rcases hletter with rfl | rfl <;> decide
  constructor
  · intro hraw
    rw [lex_of_head (List.cons_ne_nil _ _) (head_prefixed hletter hne hhead hcodes hraw), Utf8.size_cons, hsize]
  · exact fun hraw tokens => exists_tokens_rawTripled hletter hraw

/-- The letter in front of a text with an escape and a character beyond ASCII. -/
theorem lex_prefixed_escape :
    lex "\"\\x41é\"" = .ok [(.literal (.string "Aé"), ⟨0, 8⟩)] ∧
    lex "b\"\\x41é\"" = .ok [(.literal (.bytes [0x41, 0xc3, 0xa9]), ⟨0, 9⟩)] := by
  have hrec : recognise "\"\\x41é\"".toList = some (.quoted ⟨false, .escaped, '"'⟩, 1) := by decide +kernel
  have hdecode : Quoted.decode '"' ("\"\\x41é\"".toList.drop 1) = some ([.code 0x41, .char 'é'], []) := by
    decide +kernel
  have hhead : Scan.head "\"\\x41é\"".toList = .token (.literal (.string "Aé")) "\"\\x41é\"".toList.length := by
    rw [Scan.head, hrec]
    dsimp only
    rw [quotedToken?, hdecode]
    rfl
  have hlex : lex "\"\\x41é\"" = .ok [(.literal (.string "Aé"), ⟨0, 8⟩)] := lex_of_head (by decide) hhead
  have hcodes : ∀ b, Lexeme.Escapes "\"\\x41é\"".toList b → b < 0x80 := by
    rintro b ⟨q, n, ps, rest, hrec', hdecode', hb⟩
    cases hrec.symm.trans hrec'
    cases hdecode.symm.trans hdecode'
    obtain rfl : b = 0x41 := by simpa using hb
    decide
  have hraw : ¬ RawTripled "\"\\x41é\"".toList := by
    rintro ⟨r, q, rest, hr, -, hcs⟩
    obtain ⟨rfl, -⟩ := List.cons.inj hcs
    rcases hr with hr | hr <;> cases hr
  exact ⟨hlex, (lex_prefixed _ _ 'b' hlex hcodes (.inl rfl)).1 hraw⟩

/-- The raw literal of `x` with tripled quotes is no byte string behind the letter. -/
theorem not_lex_prefixed : ¬ ∀ (source s : String) (letter : Char),
    lex source = .ok [(.literal (.string s), ⟨0, Utf8.size source.toList⟩)] →
    (∀ b, Lexeme.Escapes source.toList b → b < 0x80) → letter = 'b' ∨ letter = 'B' →
    ∃ span, lex (String.ofList (letter :: source.toList)) = .ok [(.literal (.bytes (Utf8.encode s.toList)), span)] := by
  intro hall
  have hrec : recognise "r\"\"\"x\"\"\"".toList = some (.quoted ⟨false, .verbatim, '"'⟩, 4) := rfl
  have hlex : lex "r\"\"\"x\"\"\"" = .ok [(.literal (.string "x"), ⟨0, 8⟩)] := lex_of_head (by decide) rfl
  have hcodes : ∀ b, Lexeme.Escapes "r\"\"\"x\"\"\"".toList b → b < 0x80 := by
    rintro b ⟨q, n, ps, rest, hrec', -⟩
    cases hrec.symm.trans hrec'
  have hraw : RawTripled "r\"\"\"x\"\"\"".toList := ⟨'r', '"', _, .inl rfl, .inl rfl, rfl⟩
  obtain ⟨span, htokens⟩ := hall _ "x" 'b' hlex hcodes (.inl rfl)
  obtain ⟨more, heq, hne⟩ := exists_tokens_rawTripled (.inl rfl) hraw htokens
  obtain ⟨-, rfl⟩ := List.cons.inj heq
  exact hne rfl

end ExprLang
