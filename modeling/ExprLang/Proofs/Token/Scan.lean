import ExprLang.Proofs.Text.Quoted
import ExprLang.Proofs.Token.Recognise
import ExprLang.Token.Lexer

/-!
# Texts of tokens

The text of a literal is read as this literal when what follows does not go on with it (`Spells`). A negative number is
written with a sign in front of its magnitude and read as two tokens; the magnitude of the least integer is no token.
-/

namespace ExprLang

open Lexeme (Apart recognise)
open Digits (isDigit)

variable {cs ds rest : List Char} {n : Nat}

/-- The text is read as the token where what follows does not go on with it. -/
def Spells (cs : List Char) (t : Token) : Prop :=
  cs ≠ [] ∧ ∀ rest, Apart rest → Scan.head (cs ++ rest) = .token t cs.length

/-! ### Words -/

theorem spells_word {c : Char} (hc : Lexeme.isLetter c = true) (hcs : ∀ c ∈ cs, Lexeme.isWordChar c = true) :
    Spells (c :: cs) (.ofWord (String.ofList (c :: cs))) := by
  refine ⟨by simp, fun rest hr => ?_⟩
  have hlen : 1 + cs.length = (c :: cs).length := by rw [List.length_cons, Nat.add_comm]
  rw [Scan.head, List.cons_append, Lexeme.recognise_word hc hcs hr, hlen]
  dsimp only
  rw [← List.cons_append, List.take_left]

/-! ### Integers -/

private theorem magnitude?_digits (hds : ∀ c ∈ ds, isDigit 10 c = true) :
    Lexeme.magnitude? ds = Digits.value? 10 ds := by
  unfold Lexeme.magnitude?
  split
  · exact absurd (hds 'x' (by simp)) (by decide)
  · exact absurd (hds 'X' (by simp)) (by decide)
  · rfl

theorem magnitude?_write (n : Nat) : Lexeme.magnitude? (Digits.write 10 n 1) = some n := by
  have hv := Digits.value?_write (by decide : 1 < 10) (by decide) n 1
  rw [magnitude?_digits (Digits.isDigit_of_value? hv), hv]

private theorem isDigit_write (n : Nat) : ∀ c ∈ Digits.write 10 n 1, isDigit 10 c = true :=
  Digits.isDigit_of_value? (Digits.value?_write (by decide) (by decide) n 1)

theorem spells_integer (hn : n < Lexeme.leastMagnitude) :
    Spells (Digits.write 10 n 1) (.literal (.int (Int64.ofNat n))) := by
  refine ⟨Digits.write_ne_nil, fun rest hr => ?_⟩
  rw [Scan.head, Lexeme.recognise_integer Digits.write_ne_nil (isDigit_write n) hr]
  dsimp only
  rw [List.take_left, Lexeme.integerToken?, magnitude?_write, Option.bind_some, if_pos hn]
  rfl

/-- The magnitude of the least integer is rejected as a whole. -/
theorem head_leastMagnitude (hr : Apart rest) :
    Scan.head (Digits.write 10 Lexeme.leastMagnitude 1 ++ rest) =
      .reject (Digits.write 10 Lexeme.leastMagnitude 1).length := by
  rw [Scan.head, Lexeme.recognise_integer Digits.write_ne_nil (isDigit_write _) hr]
  dsimp only
  rw [List.take_left, Lexeme.integerToken?, magnitude?_write, Option.bind_some, if_neg (Nat.lt_irrefl _)]
  rfl

theorem spells_unsigned (u : UInt64) : Spells (Digits.write 10 u.toNat 1 ++ ['u']) (.literal (.uint u)) := by
  refine ⟨by simp, fun rest _ => ?_⟩
  have hrec : recognise (Digits.write 10 u.toNat 1 ++ ['u'] ++ rest) =
      some (.unsigned 10, (Digits.write 10 u.toNat 1 ++ ['u']).length) := by
    rw [List.append_assoc, List.singleton_append, Lexeme.recognise_unsigned Digits.write_ne_nil (isDigit_write _),
      List.length_append, List.length_singleton]
  rw [Scan.head, hrec]
  dsimp only
  rw [List.take_left, Lexeme.unsignedToken?, List.dropLast_concat, magnitude?_write, Option.bind_some,
    if_pos u.toNat_lt, UInt64.ofNat_toNat]
  rfl

/-! ### Numbers with a point or an exponent -/

theorem spells_numeral {d : Decimal} (h : Decimal.Numeral cs d) :
    Spells cs (.literal (.float (Decimal.toFloat false d))) := by
  obtain ⟨c, cs', rfl, hc⟩ := Decimal.exists_digit h
  refine ⟨by simp, fun rest hr => ?_⟩
  rw [Scan.head, Lexeme.recognise_numeral h hr]
  dsimp only
  rw [List.take_left, Decimal.readFloat?_eq h]
  rfl

/-! ### Quoted literals -/

/-- What is written does not begin with a quote, so that no quote is tripled. -/
private theorem not_tripled {body : List Char} (hb : ∀ c ∈ body.head?, c ≠ '"') (hr : Apart rest) :
    ['"', '"'].isPrefixOf (body ++ '"' :: rest) = false := by
  cases body with
  | nil => cases rest with
    | nil => rfl
    | cons c cs =>
      have : c ≠ '"' := hr.ne (by decide) c rfl
      simp [List.isPrefixOf, this.symm]
  | cons c cs =>
    have : c ≠ '"' := hb c rfl
    simp [List.isPrefixOf, this.symm]

private theorem recognise_quote (h : ['"', '"'].isPrefixOf cs = false) :
    recognise ('"' :: cs) = some (.quoted ⟨false, .escaped, '"'⟩, 1) := by
  have hopening : Lexeme.literalOpening ('"' :: cs) = some (.quoted ⟨false, .escaped, '"'⟩, 1) := by
    simp [Lexeme.literalOpening, Lexeme.opening, Lexeme.quote?, h]
  rw [Lexeme.recognise_eq, hopening]
  rfl

private theorem recognise_bytes_quote (h : ['"', '"'].isPrefixOf cs = false) :
    recognise ('b' :: '"' :: cs) = some (.quoted ⟨true, .escaped, '"'⟩, 2) := by
  have hopening : Lexeme.literalOpening ('b' :: '"' :: cs) = some (.quoted ⟨true, .escaped, '"'⟩, 2) := by
    simp [Lexeme.literalOpening, Lexeme.opening, Lexeme.quote?, h]
  rw [Lexeme.recognise_eq, hopening]
  rfl

theorem spells_string (s : String) : Spells (Quoted.text s).toList (.literal (.string s)) := by
  rw [Quoted.text, String.toList_ofList]
  refine ⟨by simp, fun rest hr => ?_⟩
  have hrec := recognise_quote (not_tripled (Quoted.head_text s.toList) hr)
  have htext : '"' :: s.toList.flatMap Quoted.encodeChar ++ ['"'] ++ rest =
      '"' :: (s.toList.flatMap Quoted.encodeChar ++ '"' :: rest) := by simp
  have htoken : Lexeme.quotedToken? ⟨false, .escaped, '"'⟩ (s.toList.flatMap Quoted.encodeChar ++ '"' :: rest) =
      some (.literal (.string s), rest) := by
    simp [Lexeme.quotedToken?, Quoted.decode_text, Function.comp_def, Piece.toChar]
  rw [htext, Scan.head, hrec]
  dsimp only
  rw [List.drop_one, List.tail_cons, htoken]
  simp only [List.length_append, List.length_cons, List.length_nil]
  congr 1
  omega

theorem spells_bytes (bs : List UInt8) : Spells (Quoted.bytes bs).toList (.literal (.bytes bs)) := by
  rw [Quoted.bytes, String.toList_ofList]
  refine ⟨by simp, fun rest hr => ?_⟩
  obtain ⟨ps, hps, hdecode⟩ := Quoted.decode_bytes bs rest
  have hrec := recognise_bytes_quote (not_tripled (Quoted.head_bytes bs) hr)
  have htext : 'b' :: '"' :: bs.flatMap Quoted.encodeByte ++ ['"'] ++ rest =
      'b' :: '"' :: (bs.flatMap Quoted.encodeByte ++ '"' :: rest) := by simp
  have htoken : Lexeme.quotedToken? ⟨true, .escaped, '"'⟩ (bs.flatMap Quoted.encodeByte ++ '"' :: rest) =
      some (.literal (.bytes bs), rest) := by
    simp [Lexeme.quotedToken?, hdecode, hps]
  rw [htext, Scan.head, hrec]
  dsimp only
  rw [List.drop_succ_cons, List.drop_succ_cons, List.drop_zero, htoken]
  simp only [List.length_append, List.length_cons, List.length_nil]
  congr 1
  omega

end ExprLang
