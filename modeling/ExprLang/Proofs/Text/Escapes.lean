import ExprLang.Proofs.Number.Positional
import ExprLang.Token.Lexeme

/-!
# Bodies with escapes

The body of a literal with escapes is spelled piece by piece: a character stands for itself, or a backslash is in front
of what names a character or a number (`Quoted.IsEscape`, `Quoted.IsPiece`). Decoding takes off exactly such a run with
the quote behind it (`Quoted.decode_eq_some_iff`), and the literal has the bytes of its pieces
(`Lexeme.escapedToken_exact`).
-/

namespace ExprLang

namespace Quoted

variable {b : UInt8} {c d quote : Char} {n : Nat} {w cs rest : List Char} {p : Piece} {ps : List Piece}

/-- The letters of escapes that name themselves. -/
def ownLetters : List Char := ['\\', '/', '"', '\x27', '\x60', '?']

/-- The letters of escapes with the control characters that they name. -/
def controlLetters : List (Char × Char) :=
  [('a', '\x07'), ('b', '\x08'), ('f', '\x0c'), ('n', '\n'), ('r', '\r'), ('t', '\t'), ('v', '\x0b')]

/-- What stands behind a backslash, and the piece that it names. -/
inductive IsEscape : List Char → Piece → Prop
  | own {c : Char} (h : c ∈ ownLetters) : IsEscape [c] (.char c)
  | control {c d : Char} (h : (c, d) ∈ controlLetters) : IsEscape [c] (.char d)
  | pair {c : Char} {ds : List Char} {b : UInt8} (hc : c = 'x' ∨ c = 'X') (hlen : ds.length = 2)
      (h : Digits.Positional 16 ds b.toNat) : IsEscape (c :: ds) (.code b)
  | short {ds : List Char} {d : Char} (hlen : ds.length = 4) (h : Digits.Positional 16 ds d.toNat) :
      IsEscape ('u' :: ds) (.char d)
  | long {ds : List Char} {d : Char} (hlen : ds.length = 8) (h : Digits.Positional 16 ds d.toNat) :
      IsEscape ('U' :: ds) (.char d)
  | octal {ds : List Char} {b : UInt8} (hlen : ds.length = 3) (h : Digits.Positional 8 ds b.toNat) :
      IsEscape ds (.code b)

/-- A piece between quotes as it is written. Where the quote is a backslash there are no escapes. -/
inductive IsPiece (quote : Char) : List Char → Piece → Prop
  | plain {c : Char} (hquote : c ≠ quote) (hbackslash : c ≠ '\\') (hlf : c ≠ '\n') (hcr : c ≠ '\r') :
      IsPiece quote [c] (.char c)
  | escaped {w : List Char} {p : Piece} (hquote : quote ≠ '\\') (h : IsEscape w p) : IsPiece quote ('\\' :: w) p

/-! ### Escapes -/

theorem named?_eq_some_iff : named? c = some d ↔ c ∈ ownLetters ∧ d = c ∨ (c, d) ∈ controlLetters := by
  constructor
  · intro h
    unfold named? at h
    split at h
    all_goals cases h
    all_goals decide
  · have hown : ownLetters.all (fun c => named? c = some c) = true := by decide
    have hcontrol : ∀ x ∈ controlLetters, named? x.1 = some x.2 := by decide
    rintro (⟨h, rfl⟩ | h)
    · exact of_decide_eq_true (List.all_eq_true.mp hown d h)
    · exact hcontrol (c, d) h

private theorem scalar?_eq_some_iff : scalar? n = some d ↔ n = d.toNat := by
  rw [scalar?]
  split
  · rename_i hvalid
    rw [Option.some.injEq]
    constructor
    · rintro rfl
      rw [Char.ofNat, dif_pos hvalid]
      rfl
    · rintro rfl
      exact Char.ofNat_toNat d
  · rename_i hvalid
    refine iff_of_false (by simp) ?_
    rintro rfl
    exact hvalid d.valid

/-- A number of two hexadecimal digits is a byte. -/
private theorem pair_iff : (∃ k, Digits.fixed? 16 2 cs = some k ∧ UInt8.ofNat k = b) ↔
    ∃ ds rest, cs = ds ++ rest ∧ ds.length = 2 ∧ Digits.Positional 16 ds b.toNat := by
  rw [← Digits.fixed?_eq_some_iff (by decide) (by decide)]
  constructor
  · rintro ⟨k, hk, rfl⟩
    have hlt : k < 16 ^ 2 := Digits.lt_pow_of_fixed? hk
    rwa [UInt8.toNat_ofNat_of_lt' hlt]
  · exact fun h => ⟨_, h, UInt8.ofNat_toNat⟩

private theorem scalar_iff {count : Nat} (hcount : 0 < count) :
    (Digits.fixed? 16 count cs).bind scalar? = some d ↔
      ∃ ds rest, cs = ds ++ rest ∧ ds.length = count ∧ Digits.Positional 16 ds d.toNat := by
  rw [← Digits.fixed?_eq_some_iff (by decide) hcount, Option.bind_eq_some_iff]
  constructor
  · rintro ⟨k, hk, hscalar⟩
    rwa [← scalar?_eq_some_iff.mp hscalar]
  · exact fun h => ⟨_, h, scalar?_eq_some_iff.mpr rfl⟩

/-- The value of three octal digits, with the first one apart. -/
theorem fixed?_triple (h : '0' ≤ c ∧ c ≤ '3') (cs : List Char) :
    Digits.fixed? 8 3 (c :: cs) = (Digits.fixed? 8 2 cs).map fun n => (c.toNat - '0'.toNat) * 64 + n := by
  have hc : 48 ≤ c.toNat ∧ c.toNat ≤ 51 := h
  have hd : Digits.digit? 8 c = some (c.toNat - '0'.toNat) := by
    rw [Digits.digit?_eq_some_iff_toNat, show '0'.toNat = 48 from rfl]
    omega
  exact Digits.fixed?_cons hd (by decide)

/-- Three octal digits give a byte when the first one is at most three. -/
private theorem lt_iff_lead {k : Nat} (h : Digits.fixed? 8 3 (c :: cs) = some k) :
    k < 256 ↔ '0' ≤ c ∧ c ≤ '3' := by
  obtain ⟨d, hd⟩ := Digits.exists_digit?_of_fixed? h
  rw [Digits.fixed?_cons hd (by decide)] at h
  obtain ⟨n, hn, rfl⟩ := Option.map_eq_some_iff.mp h
  have hlt : n < 8 ^ 2 := Digits.lt_pow_of_fixed? hn
  have hd := Digits.digit?_eq_some_iff_toNat.mp hd
  show d * 64 + n < 256 ↔ 48 ≤ c.toNat ∧ c.toNat ≤ 51
  omega

/-- The letters of escapes by name are not those of escapes by number. -/
private theorem letters_apart (h : named? c = some d) :
    ¬ (c = 'x' ∨ c = 'X') ∧ c ≠ 'u' ∧ c ≠ 'U' ∧ ¬ ('0' ≤ c ∧ c ≤ '3') := by
  have hletters : (ownLetters ++ controlLetters.map Prod.fst).all (fun c =>
      ¬ (c = 'x' ∨ c = 'X') ∧ c ≠ 'u' ∧ c ≠ 'U' ∧ ¬ ('0' ≤ c ∧ c ≤ '3')) = true := by decide
  refine of_decide_eq_true (List.all_eq_true.mp hletters c (List.mem_append.mpr ?_))
  rcases named?_eq_some_iff.mp h with ⟨h, -⟩ | h
  · exact .inl h
  · exact .inr (List.mem_map_of_mem h)

private theorem escape?_named (h : named? c = some d) (cs : List Char) : escape? (c :: cs) = some (.char d, 1) := by
  obtain ⟨hx, hu, hU, ho⟩ := letters_apart h
  rw [escape?, if_neg hx, if_neg hu, if_neg hU, if_neg ho, h]
  rfl

/-- What stands behind a backslash is read as the escape that it spells. -/
theorem escape?_append (h : IsEscape w p) (rest : List Char) : escape? (w ++ rest) = some (p, w.length) := by
  cases h with
  | own h => exact escape?_named (named?_eq_some_iff.mpr (.inl ⟨h, rfl⟩)) rest
  | control h => exact escape?_named (named?_eq_some_iff.mpr (.inr h)) rest
  | pair hc hlen h =>
    obtain ⟨k, hk, rfl⟩ := pair_iff.mpr ⟨_, rest, rfl, hlen, h⟩
    rw [List.cons_append, escape?, if_pos hc, hk, List.length_cons, hlen]
    rfl
  | short hlen h =>
    have hd := (scalar_iff (by decide)).mpr ⟨_, rest, rfl, hlen, h⟩
    rw [List.cons_append, escape?, if_neg (by decide), if_pos rfl, hd, List.length_cons, hlen]
    rfl
  | long hlen h =>
    have hd := (scalar_iff (by decide)).mpr ⟨_, rest, rfl, hlen, h⟩
    rw [List.cons_append, escape?, if_neg (by decide), if_neg (by decide), if_pos rfl, hd, List.length_cons, hlen]
    rfl
  | octal hlen h =>
    cases w with
    | nil => cases hlen
    | cons c ds =>
      have hfixed := (Digits.fixed?_eq_some_iff (by decide) (by decide)).mpr ⟨_, rest, rfl, hlen, h⟩
      have hlead := (lt_iff_lead hfixed).mp (UInt8.toNat_lt _)
      have hne (d : Char) (hd : ¬ d ≤ '3') : c ≠ d := by
        rintro rfl
        exact hd hlead.2
      have hx : ¬ (c = 'x' ∨ c = 'X') := not_or.mpr ⟨hne _ (by decide), hne _ (by decide)⟩
      rw [List.cons_append] at hfixed ⊢
      rw [escape?, if_neg hx, if_neg (hne _ (by decide)), if_neg (hne _ (by decide)), if_pos hlead, hfixed, hlen,
        Option.map_some, UInt8.ofNat_toNat]

theorem exists_of_escape? (h : escape? cs = some (p, n)) :
    ∃ w rest, cs = w ++ rest ∧ w.length = n ∧ IsEscape w p := by
  cases cs with
  | nil => cases h
  | cons c cs =>
    rw [escape?] at h
    split_ifs at h with hx hu hU ho
    · obtain ⟨k, hk, h⟩ := Option.map_eq_some_iff.mp h
      cases h
      obtain ⟨ds, rest, rfl, hlen, hds⟩ := pair_iff.mp ⟨k, hk, rfl⟩
      exact ⟨c :: ds, rest, rfl, congrArg Nat.succ hlen, .pair hx hlen hds⟩
    · obtain ⟨d, hd, h⟩ := Option.map_eq_some_iff.mp h
      cases h
      obtain ⟨ds, rest, rfl, hlen, hds⟩ := (scalar_iff (by decide)).mp hd
      exact ⟨c :: ds, rest, rfl, congrArg Nat.succ hlen, hu ▸ .short hlen hds⟩
    · obtain ⟨d, hd, h⟩ := Option.map_eq_some_iff.mp h
      cases h
      obtain ⟨ds, rest, rfl, hlen, hds⟩ := (scalar_iff (by decide)).mp hd
      exact ⟨c :: ds, rest, rfl, congrArg Nat.succ hlen, hU ▸ .long hlen hds⟩
    · obtain ⟨k, hk, h⟩ := Option.map_eq_some_iff.mp h
      cases h
      have hlt : k < 2 ^ 8 := (lt_iff_lead hk).mpr ho
      obtain ⟨ds, rest, hcs, hlen, hds⟩ := (Digits.fixed?_eq_some_iff (by decide) (by decide)).mp hk
      rw [← UInt8.toNat_ofNat_of_lt' hlt] at hds
      exact ⟨ds, rest, hcs, hlen, .octal hlen hds⟩
    · obtain ⟨d, hd, h⟩ := Option.map_eq_some_iff.mp h
      cases h
      refine ⟨[c], cs, rfl, rfl, ?_⟩
      rcases named?_eq_some_iff.mp hd with ⟨h, rfl⟩ | h
      · exact .own h
      · exact .control h

/-! ### Bodies -/

theorem decode_append {ws : List (List Char)} (h : List.Forall₂ (IsPiece quote) ws ps) (rest : List Char) :
    decode quote (ws.flatten ++ quote :: rest) = some (ps, rest) := by
  induction h with
  | nil => rw [List.flatten_nil, List.nil_append, decode, if_pos rfl]
  | cons hw _ ih =>
    rw [List.flatten_cons, List.append_assoc]
    cases hw with
    | plain hquote hbackslash hlf hcr =>
      rw [List.singleton_append, decode, if_neg hquote, if_neg (by simp [hlf, hcr]), if_neg hbackslash, ih]
      rfl
    | escaped hquote hescape =>
      rw [List.cons_append, decode, if_neg hquote.symm, if_neg (by decide), if_pos rfl, escape?_append hescape]
      dsimp only
      rw [List.drop_left, ih]
      rfl

theorem exists_of_decode (h : decode quote cs = some (ps, rest)) :
    ∃ ws, cs = ws.flatten ++ quote :: rest ∧ List.Forall₂ (IsPiece quote) ws ps := by
  fun_induction decode quote cs generalizing ps rest with
  | case1 => cases h
  | case2 cs =>
    cases h
    exact ⟨[], rfl, .nil⟩
  | case3 => cases h
  | case4 => cases h
  | case5 cs p n hescape hquote hline ih =>
    obtain ⟨⟨ps', rest'⟩, hdecode, hx⟩ := Option.map_eq_some_iff.mp h
    cases hx
    obtain ⟨w, more, rfl, rfl, hw⟩ := exists_of_escape? hescape
    rw [List.drop_left] at ih
    obtain ⟨ws, rfl, hws⟩ := ih (by simpa using hdecode)
    exact ⟨('\\' :: w) :: ws, by simp, .cons (.escaped (Ne.symm hquote) hw) hws⟩
  | case6 c cs hquote hline hc ih =>
    obtain ⟨⟨ps', rest'⟩, hdecode, hx⟩ := Option.map_eq_some_iff.mp h
    cases hx
    obtain ⟨ws, rfl, hws⟩ := ih hdecode
    rw [not_or] at hline
    exact ⟨[c] :: ws, rfl, .cons (.plain hquote hc hline.1 hline.2) hws⟩

theorem decode_eq_some_iff : decode quote cs = some (ps, rest) ↔
    ∃ ws, cs = ws.flatten ++ quote :: rest ∧ List.Forall₂ (IsPiece quote) ws ps := by
  constructor
  · exact exists_of_decode
  · rintro ⟨ws, rfl, h⟩
    exact decode_append h rest

end Quoted

/-! ### Bytes -/

/-- The bytes of a piece. A number is a byte of a byte string, and the code point of a character of a text. -/
def Piece.denotation (isBytes : Bool) : Piece → List UInt8
  | .char c => String.utf8EncodeChar c
  | .code b => if isBytes then [b] else String.utf8EncodeChar (Char.ofUInt8 b)

private theorem Piece.denotation_bytes (p : Piece) : p.denotation true = p.toBytes := by
  cases p <;> rfl

private theorem Piece.denotation_text (p : Piece) : p.denotation false = String.utf8EncodeChar p.toChar := by
  cases p <;> rfl

theorem Utf8.decode?_encode (cs : List Char) : decode? (encode cs) = some (String.ofList cs) := by
  have hbytes : (⟨(encode cs).toArray⟩ : ByteArray) = cs.utf8Encode :=
    ByteArray.ext (by simp [encode, List.utf8Encode])
  have hvalid : cs.utf8Encode.IsValidUTF8 := ⟨cs, rfl⟩
  rw [decode?, hbytes, String.fromUTF8?, dif_pos hvalid]
  rfl

namespace Lexeme

/-- The literal with the bytes, which are well-formed in a text. -/
def ofBytes? (isBytes : Bool) (bs : List UInt8) : Option Token :=
  if isBytes then some (.literal (.bytes bs)) else (Utf8.decode? bs).map fun s => .literal (.string s)

/-- The bytes of pieces are those of a literal, also in a text. -/
private theorem quotedToken?_of_decode {isBytes : Bool} {quote : Char} {cs rest : List Char} {ps : List Piece}
    (h : Quoted.decode quote cs = some (ps, rest)) :
    ∃ t, ofBytes? isBytes (ps.flatMap (Piece.denotation isBytes)) = some t ∧
      quotedToken? ⟨isBytes, .escaped, quote⟩ cs = some (t, rest) := by
  cases isBytes with
  | true =>
    refine ⟨.literal (.bytes (ps.flatMap Piece.toBytes)), ?_, by simp [quotedToken?, h]⟩
    rw [List.flatMap_congr fun p _ => p.denotation_bytes]
    rfl
  | false =>
    refine ⟨.literal (.string (String.ofList (ps.map Piece.toChar))), ?_, by simp [quotedToken?, h]⟩
    have hencode : ps.flatMap (Piece.denotation false) = Utf8.encode (ps.map Piece.toChar) := by
      rw [Utf8.encode, List.flatMap_map]
      exact List.flatMap_congr fun p _ => p.denotation_text
    rw [ofBytes?, hencode, Utf8.decode?_encode]
    rfl

/-- The numbers of digits that escapes take, with their bases. -/
def digitCounts : List (Nat × Nat) := [(16, 2), (16, 4), (16, 8), (8, 2)]

/-- A body with escapes is read when it is a run of pieces with the quote behind it, and up to there. The literal has
the bytes of the pieces, which are well-formed in a text. The digits of an escape are added up within 32 bits; where the
first of three octal ones is added apart, the sum is still a byte. -/
theorem escapedToken_exact (isBytes : Bool) (quote : Char) (cs : List Char) :
    ((∃ t rest, quotedToken? ⟨isBytes, .escaped, quote⟩ cs = some (t, rest)) ↔
      ∃ ws ps rest, cs = ws.flatten ++ quote :: rest ∧ List.Forall₂ (Quoted.IsPiece quote) ws ps) ∧
    (∀ ws ps rest, cs = ws.flatten ++ quote :: rest → List.Forall₂ (Quoted.IsPiece quote) ws ps →
      ∃ t, ofBytes? isBytes (ps.flatMap (Piece.denotation isBytes)) = some t ∧
        quotedToken? ⟨isBytes, .escaped, quote⟩ cs = some (t, rest)) ∧
    (∀ base count, (base, count) ∈ digitCounts → ∀ ds : List Char, Digits.Fits (2 ^ 32) base (ds.take count)) ∧
    (∀ (lead : Char) (ds : List Char), '0' ≤ lead ∧ lead ≤ '3' →
      (Digits.fixed? 8 3 (lead :: ds) =
        (Digits.fixed? 8 2 ds).map fun n => (lead.toNat - '0'.toNat) * 64 + n) ∧
      ∀ n, Digits.fixed? 8 2 ds = some n → (lead.toNat - '0'.toNat) * 64 + n < 2 ^ 8) := by
  refine ⟨⟨?_, ?_⟩, ?_, ?_, ?_⟩
  · rintro ⟨t, rest, h⟩
    obtain ⟨⟨ps, rest'⟩, hdecode, -⟩ := Option.map_eq_some_iff.mp h
    obtain ⟨ws, hcs, hws⟩ := Quoted.exists_of_decode hdecode
    exact ⟨ws, ps, rest', hcs, hws⟩
  · rintro ⟨ws, ps, rest, hcs, hws⟩
    obtain ⟨t, -, h⟩ := quotedToken?_of_decode (Quoted.decode_eq_some_iff.mpr ⟨ws, hcs, hws⟩)
    exact ⟨t, rest, h⟩
  · intro ws ps rest hcs hws
    exact quotedToken?_of_decode (Quoted.decode_eq_some_iff.mpr ⟨ws, hcs, hws⟩)
  · intro base count hmem ds
    have hbound : ∀ x ∈ digitCounts, x.1 ^ x.2 ≤ 2 ^ 32 := by decide
    exact (Digits.fits_take count ds).mono (hbound (base, count) hmem)
  · intro lead ds hlead
    refine ⟨Quoted.fixed?_triple hlead ds, fun n hn => ?_⟩
    have hn : n < 8 ^ 2 := Digits.lt_pow_of_fixed? hn
    have hlead : lead.toNat - '0'.toNat ≤ 51 - 48 := Nat.sub_le_sub_right hlead.2 48
    omega

/-- A hexadecimal pair is a byte of a byte string and takes two bytes in a text. -/
theorem escapedToken_pair :
    quotedToken? ⟨true, .escaped, '"'⟩ "\\xe9\" + x".toList = some (.literal (.bytes [0xe9]), " + x".toList) ∧
    quotedToken? ⟨false, .escaped, '"'⟩ "\\xe9\" + x".toList = some (.literal (.string "é"), " + x".toList) ∧
    Digits.Fits (2 ^ 32) 16 "ffffffff".toList ∧
    Digits.fixed? 8 3 "377".toList = (Digits.fixed? 8 2 "77".toList).map fun n => ('3'.toNat - '0'.toNat) * 64 + n := by
  have hdigits : List.Forall₂ (Digits.IsDigitOf 16) ['e', '9'] [14, 9] :=
    .cons ⟨by decide, by decide⟩ (.cons ⟨by decide, by decide⟩ .nil)
  have hpair : Quoted.IsEscape ['x', 'e', '9'] (.code 0xe9) := .pair (.inl rfl) rfl ⟨[14, 9], hdigits, rfl⟩
  have hws : List.Forall₂ (Quoted.IsPiece '"') [['\\', 'x', 'e', '9']] [.code 0xe9] :=
    .cons (.escaped (by decide) hpair) .nil
  refine ⟨?_, ?_, ?_, ?_⟩
  · obtain ⟨t, ht, h⟩ := (escapedToken_exact true '"' "\\xe9\" + x".toList).2.1 _ _ " + x".toList rfl hws
    rwa [← Option.some.inj ht] at h
  · obtain ⟨t, ht, h⟩ := (escapedToken_exact false '"' "\\xe9\" + x".toList).2.1 _ _ " + x".toList rfl hws
    have hdecode : ofBytes? false (Utf8.encode ['é']) = some (.literal (.string "é")) := by
      rw [ofBytes?, Utf8.decode?_encode]
      rfl
    rwa [Option.some.inj (ht.symm.trans hdecode)] at h
  · exact (escapedToken_exact true '"' []).2.2.1 16 8 (by decide) "ffffffff".toList
  · exact ((escapedToken_exact true '"' []).2.2.2 '3' "77".toList (by decide)).1

end Lexeme

end ExprLang
