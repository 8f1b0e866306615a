import ExprLang.Proofs.Text.Escapes

/-!
# Quoted literals read back

A text or a byte string that is written as a literal is decoded piece by piece: each character or byte is written so
that decoding takes it off as one piece that stands for it (`decode_encodeChar`, `decode_encodeByte`).

A body of any kind is read up to its closing quotes, whatever stands behind them (`IsLocal`).
-/

namespace ExprLang.Quoted

/-- What decoding gives when one more piece stands in front. -/
def withPiece (p : Piece) (r : Option (List Piece × List Char)) : Option (List Piece × List Char) :=
  r.map fun (ps, rest) => (p :: ps, rest)

variable {p : Piece} {n : Nat} {cs : List Char}

/-- A backslash and what it names are one piece. -/
private theorem decode_escape (he : escape? cs = some (p, n)) :
    decode '"' ('\\' :: cs) = withPiece p (decode '"' (cs.drop n)) := by
  rw [decode, if_neg (by decide), if_neg (by decide), if_pos rfl, he]
  rfl

private theorem decode_named {c d : Char} (h : escape? (c :: cs) = some (.char d, 1)) :
    decode '"' (['\\', c] ++ cs) = withPiece (.char d) (decode '"' cs) := decode_escape h

/-- Most characters stand for themselves. -/
private theorem decode_plain {c : Char} (hq : c ≠ '"') (hn : c ≠ '\n') (hr : c ≠ '\r') (hb : c ≠ '\\') :
    decode '"' (c :: cs) = withPiece (.char c) (decode '"' cs) := by
  rw [decode, if_neg hq, if_neg (by simp [hn, hr]), if_neg hb]
  rfl

private theorem toNat_lt_of_isControl {c : Char} (h : isControl c = true) : c.toNat < 160 := by
  unfold isControl at h
  rw [Bool.or_eq_true, Bool.and_eq_true, decide_eq_true_eq, decide_eq_true_eq, decide_eq_true_eq,
    UInt32.lt_iff_toNat_lt, UInt32.lt_iff_toNat_lt] at h
  show c.val.toNat < 160
  rcases h with h | ⟨_, h⟩
  · exact Nat.lt_trans h (by decide)
  · exact h

theorem decode_encodeChar (c : Char) (cs : List Char) :
    decode '"' (encodeChar c ++ cs) = withPiece (.char c) (decode '"' cs) := by
  unfold encodeChar
  by_cases h₁ : c = '"'
  · rw [if_pos h₁, h₁, decode_named rfl]
  by_cases h₂ : c = '\\'
  · rw [if_neg h₁, if_pos h₂, h₂, decode_named rfl]
  by_cases h₃ : c = '\n'
  · rw [if_neg h₁, if_neg h₂, if_pos h₃, h₃, decode_named rfl]
  by_cases h₄ : c = '\r'
  · rw [if_neg h₁, if_neg h₂, if_neg h₃, if_pos h₄, h₄, decode_named rfl]
  by_cases h₅ : c = '\t'
  · rw [if_neg h₁, if_neg h₂, if_neg h₃, if_neg h₄, if_pos h₅, h₅, decode_named rfl]
  rw [if_neg h₁, if_neg h₂, if_neg h₃, if_neg h₄, if_neg h₅]
  split
  · rename_i hc
    have hlt := toNat_lt_of_isControl hc
    have he : escape? ('u' :: Digits.write 16 c.toNat 4 ++ cs) = some (.char c, 5) := by
      have hvalid : c.toNat.isValidChar := c.valid
      have hfixed := Digits.fixed?_write (by decide : 1 < 16) (by decide) (by decide : 0 < 4)
        (by omega : c.toNat < 16 ^ 4) cs
      simp [escape?, hfixed, scalar?, hvalid]
    have hdrop : ('u' :: Digits.write 16 c.toNat 4 ++ cs).drop 5 = cs := by
      rw [List.drop_left']
      rw [List.length_cons, Digits.length_write (by decide) (by decide) (by omega)]
    rw [List.cons_append, decode_escape he, hdrop]
  · exact decode_plain h₁ h₃ h₄ h₂

private theorem ofUInt8_ne {b : UInt8} {c : Char} (h : b.toNat ≠ c.toNat) : Char.ofUInt8 b ≠ c := by
  rintro rfl
  exact h rfl

theorem utf8EncodeChar_ofUInt8 {b : UInt8} (h : b.toNat < 128) :
    String.utf8EncodeChar (Char.ofUInt8 b) = [b] := by
  have all : ∀ n < 128, String.utf8EncodeChar (Char.ofUInt8 (UInt8.ofNat n)) = [UInt8.ofNat n] := by decide
  have := all b.toNat h
  rwa [UInt8.ofNat_toNat] at this

theorem decode_encodeByte (b : UInt8) (cs : List Char) :
    ∃ p : Piece, p.toBytes = [b] ∧ decode '"' (encodeByte b ++ cs) = withPiece p (decode '"' cs) := by
  unfold encodeByte
  by_cases h₁ : b = 0x22
  · rw [if_pos h₁, h₁]
    exact ⟨.char '"', by decide, decode_named rfl⟩
  by_cases h₂ : b = 0x5c
  · rw [if_neg h₁, if_pos h₂, h₂]
    exact ⟨.char '\\', by decide, decode_named rfl⟩
  rw [if_neg h₁, if_neg h₂]
  split
  · rename_i hb
    rw [UInt8.le_iff_toNat_le, UInt8.le_iff_toNat_le] at hb
    rw [← UInt8.toNat_inj] at h₁ h₂
    obtain ⟨hlow, hhigh⟩ : 32 ≤ b.toNat ∧ b.toNat ≤ 126 := hb
    refine ⟨.char (Char.ofUInt8 b), utf8EncodeChar_ofUInt8 (by omega), decode_plain ?_ ?_ ?_ ?_⟩
    · exact ofUInt8_ne h₁
    · exact ofUInt8_ne (by simp; omega)
    · exact ofUInt8_ne (by simp; omega)
    · exact ofUInt8_ne h₂
  · have hlt : b.toNat < 16 ^ 2 := b.toNat_lt
    have he : escape? ('x' :: Digits.write 16 b.toNat 2 ++ cs) = some (.code b, 3) := by
      have hfixed := Digits.fixed?_write (by decide : 1 < 16) (by decide) (by decide : 0 < 2) hlt cs
      simp [escape?, hfixed]
    have hdrop : ('x' :: Digits.write 16 b.toNat 2 ++ cs).drop 3 = cs := by
      rw [List.drop_left']
      rw [List.length_cons, Digits.length_write (by decide) (by decide) hlt]
    refine ⟨.code b, rfl, ?_⟩
    rw [List.cons_append, decode_escape he, hdrop]

/-! ### Bodies -/

private theorem head_encodeChar (c : Char) : ∃ d ds, encodeChar c = d :: ds ∧ d ≠ '"' := by
  unfold encodeChar
  by_cases h : c = '"'
  · rw [if_pos h]
    exact ⟨_, _, rfl, by decide⟩
  · rw [if_neg h]
    repeat' split
    all_goals first | exact ⟨_, _, rfl, by decide⟩ | exact ⟨_, _, rfl, h⟩

private theorem head_encodeByte (b : UInt8) : ∃ d ds, encodeByte b = d :: ds ∧ d ≠ '"' := by
  unfold encodeByte
  by_cases h : b = 0x22
  · rw [if_pos h]
    exact ⟨_, _, rfl, by decide⟩
  · rw [if_neg h]
    split
    · exact ⟨_, _, rfl, by decide⟩
    · split
      · rw [← UInt8.toNat_inj] at h
        exact ⟨_, _, rfl, ofUInt8_ne h⟩
      · exact ⟨_, _, rfl, by decide⟩

/-- A body that is written does not begin with a quote. -/
theorem head_text (cs : List Char) : ∀ d ∈ (cs.flatMap encodeChar).head?, d ≠ '"' := by
  cases cs with
  | nil => simp
  | cons c cs =>
    obtain ⟨d, ds, hd, hne⟩ := head_encodeChar c
    simpa [hd] using hne

theorem head_bytes (bs : List UInt8) : ∀ d ∈ (bs.flatMap encodeByte).head?, d ≠ '"' := by
  cases bs with
  | nil => simp
  | cons b bs =>
    obtain ⟨d, ds, hd, hne⟩ := head_encodeByte b
    simpa [hd] using hne

theorem decode_text (cs rest : List Char) :
    decode '"' (cs.flatMap encodeChar ++ '"' :: rest) = some (cs.map Piece.char, rest) := by
  induction cs with
  | nil => rw [List.flatMap_nil, List.nil_append, decode, if_pos rfl, List.map_nil]
  | cons c cs ih =>
    rw [List.flatMap_cons, List.append_assoc, decode_encodeChar, ih]
    rfl

theorem decode_bytes (bs : List UInt8) (rest : List Char) :
    ∃ ps : List Piece, ps.flatMap Piece.toBytes = bs ∧
      decode '"' (bs.flatMap encodeByte ++ '"' :: rest) = some (ps, rest) := by
  induction bs with
  | nil => exact ⟨[], rfl, by rw [List.flatMap_nil, List.nil_append, decode, if_pos rfl]⟩
  | cons b bs ih =>
    obtain ⟨ps, hps, hd⟩ := ih
    obtain ⟨p, hp, hb⟩ := decode_encodeByte b (bs.flatMap encodeByte ++ '"' :: rest)
    refine ⟨p :: ps, ?_, ?_⟩
    · rw [List.flatMap_cons, hp, hps, List.singleton_append]
    · rw [List.flatMap_cons, List.append_assoc, hb, hd]
      rfl

section Local

variable {quote : Char} {rest : List Char}

/-! ### What a body takes of the text -/

/-- What is read at the head of a text does not depend on the text behind it. -/
def IsLocal {α : Type} (read : List Char → Option (α × List Char)) : Prop :=
  ∀ cs a rest, read cs = some (a, rest) → ∃ w, cs = w ++ rest ∧ ∀ rest', read (w ++ rest') = some (a, rest')

theorem isLocal_decode (quote : Char) : IsLocal (decode quote) := by
  intro cs ps rest h
  obtain ⟨ws, rfl, hws⟩ := exists_of_decode h
  refine ⟨ws.flatten ++ [quote], by simp, fun rest' => ?_⟩
  rw [List.append_assoc, List.singleton_append, decode_append hws]

theorem isLocal_raw (quote : Char) : IsLocal (raw quote) := by
  intro cs body rest h
  fun_induction raw quote cs generalizing body rest with
  | case1 => cases h
  | case2 cs =>
    cases h
    exact ⟨[quote], rfl, fun rest' => by rw [List.singleton_append, raw, if_pos rfl]⟩
  | case3 => cases h
  | case4 c cs hq hline ih =>
    obtain ⟨⟨body', rest'⟩, hraw, hx⟩ := Option.map_eq_some_iff.mp h
    cases hx
    obtain ⟨w, rfl, hw⟩ := ih _ _ hraw
    refine ⟨c :: w, rfl, fun rest' => ?_⟩
    rw [List.cons_append, raw, if_neg hq, if_neg hline, hw]
    rfl

private theorem verbatim_append {body : List Char} (h : verbatim quote cs = some (body, rest)) :
    ∃ w, cs = w ++ rest ∧ 3 ≤ w.length ∧ ∀ rest', verbatim quote (w ++ rest') = some (body, rest') := by
  induction cs generalizing body rest with
  | nil => cases h
  | cons c cs ih =>
    rw [verbatim] at h
    split at h
    · rename_i hclose
      obtain ⟨ds, hds⟩ := List.isPrefixOf_iff_prefix.mp hclose
      cases h
      obtain ⟨rfl, rfl⟩ := List.cons.inj hds
      refine ⟨[quote, quote, quote], rfl, Nat.le_refl _, fun rest' => ?_⟩
      have hclose : [quote, quote, quote].isPrefixOf ([quote, quote, quote] ++ rest') = true :=
        List.isPrefixOf_iff_prefix.mpr (List.prefix_append _ _)
      rw [List.cons_append] at hclose ⊢
      rw [verbatim, if_pos hclose]
      rfl
    · rename_i hopen
      obtain ⟨⟨body', rest'⟩, hverbatim, hx⟩ := Option.map_eq_some_iff.mp h
      cases hx
      obtain ⟨w, rfl, hlen, hw⟩ := ih hverbatim
      refine ⟨c :: w, rfl, by simp; omega, fun rest' => ?_⟩
      -- the closing quotes are still to come, so that three characters are there to be compared
      have hwindow (rest : List Char) : [quote, quote, quote].isPrefixOf (c :: (w ++ rest)) =
          [quote, quote, quote].isPrefixOf (c :: w) := by
        match w, hlen with
        | d :: e :: w, _ => simp [List.isPrefixOf]
      rw [hwindow] at hopen
      rw [List.cons_append, verbatim, hwindow, if_neg hopen, hw]
      rfl

theorem isLocal_verbatim (quote : Char) : IsLocal (verbatim quote) := by
  intro cs body rest h
  obtain ⟨w, hcs, -, hw⟩ := verbatim_append h
  exact ⟨w, hcs, hw⟩

/-- What ends within a text is read whatever stands behind the text. -/
theorem IsLocal.append {α : Type} {read : List Char → Option (α × List Char)} (h : IsLocal read) {a : α}
    {u r : List Char} (hread : read (u ++ r) = some (a, rest)) (hlen : r.length ≤ rest.length) :
    ∃ d, rest = d ++ r ∧ ∀ r', read (u ++ r') = some (a, d ++ r') := by
  obtain ⟨w, hw, hlocal⟩ := h _ _ _ hread
  obtain ⟨d, rfl, rfl⟩ : ∃ d, u = w ++ d ∧ rest = d ++ r := by
    rcases List.append_eq_append_iff.mp hw with ⟨d, hd, hrest⟩ | ⟨d, hd, hrest⟩
    · have hd' : d = [] := by
        rw [hrest, List.length_append] at hlen
        exact List.eq_nil_of_length_eq_zero (by omega)
      exact ⟨[], by simp [hd, hd'], by simp [hrest, hd']⟩
    · exact ⟨d, hd, hrest⟩
  exact ⟨d, rfl, fun r' => by rw [List.append_assoc, hlocal]⟩

theorem IsLocal.map {α β : Type} {read : List Char → Option (α × List Char)} (h : IsLocal read)
    {f : α × List Char → β × List Char} (hf : ∀ a rest rest', f (a, rest') = ((f (a, rest)).1, rest')) :
    IsLocal fun cs => (read cs).map f := by
  intro cs b rest hread
  obtain ⟨⟨a, rest₀⟩, ha, hx⟩ := Option.map_eq_some_iff.mp hread
  have hrest := hf a rest₀ rest₀
  rw [hx] at hrest
  cases hrest
  obtain ⟨w, hcs, hw⟩ := h _ _ _ ha
  refine ⟨w, hcs, fun rest' => ?_⟩
  dsimp only
  rw [hw, Option.map_some, hf a rest rest', hx]

end Local

end ExprLang.Quoted
