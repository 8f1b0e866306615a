import ExprLang.Proofs.Number.Decimal
import ExprLang.Proofs.Number.Digits
import ExprLang.Proofs.Number.Packing

/-!
# Numerals with a point or an exponent

`Numeral` is the form in which magnitudes of doubles are written: digits, a point and digits, perhaps with an exponent,
or digits with an exponent. Such a text reads as the decimal that it spells (`read?_eq`), the text of a decimal has
this form and spells a decimal of the same value (`exists_numeral_layout`), and so the text of a finite double spells
it, with a sign where it has one (`exists_numeral_write`).
-/

namespace ExprLang.Decimal

open Digits (value? valueFrom? isDigit)

/-- The exponent part of a numeral, which may be absent, and its value. -/
inductive ExponentPart : List Char → Int → Prop
  | absent : ExponentPart [] 0
  | positive {ds : List Char} {n : Nat} : value? 10 ds = some n → ExponentPart ('e' :: ds) n
  | negative {ds : List Char} {n : Nat} : value? 10 ds = some n → ExponentPart ('e' :: '-' :: ds) (-n)

/-- A numeral with a point or an exponent, and the decimal that it spells. -/
inductive Numeral : List Char → Decimal → Prop
  | pointed {W F X : List Char} {n : Nat} {e : Int} : W ≠ [] → F ≠ [] → value? 10 (W ++ F) = some n → ExponentPart X e →
      Numeral (W ++ '.' :: (F ++ X)) ⟨n, e - F.length⟩
  | whole {W X : List Char} {n : Nat} {e : Int} : W ≠ [] → X ≠ [] → value? 10 W = some n → ExponentPart X e →
      Numeral (W ++ X) ⟨n, e⟩

variable {cs ds W F X : List Char} {d : Decimal} {n : Nat} {e : Int}

/-! ### Reading -/

private theorem not_digit_exponent (h : ExponentPart X e) : ∀ c ∈ X.head?, isDigit 10 c = false := by
  cases h with
  | absent => simp
  | positive | negative =>
    intro c hc
    obtain rfl : c = 'e' := by simpa using hc.symm
    decide

theorem exponentPart?_eq (h : ExponentPart X e) : exponentPart? X = some e := by
  cases h with
  | absent => rfl
  | @positive ds n hv =>
    have hsign : sign ds = (false, ds) := by
      unfold sign
      split
      · have := Digits.isDigit_of_value? hv _ List.mem_cons_self
        exact absurd this (by decide)
      · have := Digits.isDigit_of_value? hv _ List.mem_cons_self
        exact absurd this (by decide)
      · rfl
    simp [exponentPart?, hsign, hv]
  | negative hv => simp [exponentPart?, sign, hv]

theorem read?_eq (h : Numeral cs d) : read? cs = some d := by
  cases h with
  | @pointed W F X n e hW hF hv hX =>
    have hdigits := Digits.isDigit_of_value? hv
    obtain ⟨hW₁, hW₂⟩ := @takeWhile_append_eq _ (isDigit 10) W ('.' :: (F ++ X))
      (fun c hc => hdigits c (List.mem_append_left F hc)) (by simp; decide)
    obtain ⟨hF₁, hF₂⟩ := takeWhile_append_eq (fun c hc => hdigits c (List.mem_append_right W hc))
      (not_digit_exponent hX)
    unfold read?
    simp only [hW₁, hW₂, hF₁, hF₂, hv, exponentPart?_eq hX, Option.bind_some, Option.map_some]
  | @whole W X n e hW hX₀ hv hX =>
    obtain ⟨hW₁, hW₂⟩ := takeWhile_append_eq (Digits.isDigit_of_value? hv) (not_digit_exponent hX)
    unfold read?
    simp only [hW₁, hW₂]
    cases hX with
    | absent => exact absurd rfl hX₀
    | positive hx => simp [hv, exponentPart?_eq (.positive hx)]
    | negative hx => simp [hv, exponentPart?_eq (.negative hx)]

/-- A numeral begins with a digit. -/
theorem exists_digit (h : Numeral cs d) : ∃ c cs', cs = c :: cs' ∧ isDigit 10 c = true := by
  have first {W S : List Char} {n : Nat} (hW : W ≠ []) (hv : value? 10 (W ++ S) = some n) (R : List Char) :
      ∃ c cs', W ++ R = c :: cs' ∧ isDigit 10 c = true := by
    obtain ⟨c, W, rfl⟩ := List.exists_cons_of_ne_nil hW
    exact ⟨c, _, rfl, Digits.isDigit_of_value? hv c List.mem_cons_self⟩
  cases h with
  | pointed hW _ hv _ => exact first hW hv _
  | whole hW _ hv _ => exact first hW (S := []) (by rwa [List.append_nil]) _

private theorem isWord_eq_false {c : Char} (hc : c.toLower.isAlpha = false) {word : String}
    (hw : word.toList.head?.all Char.isAlpha = true) : isWord (c :: cs) word = false := by
  rw [isWord, decide_eq_false_iff_not]
  intro h
  rw [← h, List.map_cons, List.head?_cons, Option.all_some, hc] at hw
  nomatch hw

/-- What begins with a digit or a point has no sign and is no word. -/
theorem readFloat?_cons {c : Char} (hc : isDigit 10 c = true ∨ c = '.') (cs : List Char) :
    readFloat? (c :: cs) = (read? (c :: cs)).map (toFloat false) := by
  have hchar : c ≠ '-' ∧ c ≠ '+' ∧ c.toLower.isAlpha = false := by
    rcases hc with hc | rfl
    · exact Digits.of_isDigit hc (by decide)
    · decide
  obtain ⟨hminus, hplus, hlower⟩ := hchar
  have hsign : sign (c :: cs) = (false, c :: cs) := by
    unfold sign
    split
    · rename_i hcons
      exact absurd (List.cons.inj hcons).1 hminus
    · rename_i hcons
      exact absurd (List.cons.inj hcons).1 hplus
    · rfl
  have hinf : isWord (c :: cs) "inf" = false := isWord_eq_false hlower (by decide)
  have hinfinity : isWord (c :: cs) "infinity" = false := isWord_eq_false hlower (by decide)
  have hnan : isWord (c :: cs) "nan" = false := isWord_eq_false hlower (by decide)
  simp [readFloat?, hsign, hinf, hinfinity, hnan]

theorem readFloat?_eq (h : Numeral cs d) : readFloat? cs = some (toFloat false d) := by
  have hread := read?_eq h
  obtain ⟨c, cs', rfl, hc⟩ := exists_digit h
  rw [readFloat?_cons (.inl hc), hread, Option.map_some]

/-! ### Writing -/

private theorem exists_zeros (ds : List Char) :
    ∃ k, ds = (ds.reverse.dropWhile (· = '0')).reverse ++ List.replicate k '0' := by
  refine ⟨(ds.reverse.takeWhile (· = '0')).length, ?_⟩
  have hzeros : ds.reverse.takeWhile (· = '0') = List.replicate (ds.reverse.takeWhile (· = '0')).length '0' := by
    refine List.eq_replicate_of_mem fun c hc => ?_
    simpa using List.mem_takeWhile_imp hc
  rw [← List.reverse_inj, List.reverse_append, List.reverse_replicate, List.reverse_reverse, ← hzeros,
    List.takeWhile_append_dropWhile]

/-- The zeros at the end of a numeral are a factor. -/
private theorem exists_normal (h : d.digits ≠ 0) : ∃ n,
    value? 10 d.normal.1 = some n ∧ (n : ℚ) * 10 ^ (d.normal.2 + 1 - d.normal.1.length) = d.toRat := by
  set ds := Digits.write 10 d.digits 1 with hds
  set S := (ds.reverse.dropWhile (· = '0')).reverse with hS
  have hnormal : d.normal = (S, d.exponent + ds.length - 1) := rfl
  obtain ⟨k, hk⟩ : ∃ k, ds = S ++ List.replicate k '0' := exists_zeros ds
  have hvalue : valueFrom? 10 0 ds = some d.digits := by
    rw [← Digits.value?_eq_valueFrom? Digits.write_ne_nil]
    exact Digits.value?_write (by decide) (by decide) d.digits 1
  rw [hk, Digits.valueFrom?_append, Option.bind_eq_some_iff] at hvalue
  obtain ⟨n, hn, hvalue⟩ := hvalue
  rw [Digits.valueFrom?_zeros (by decide), Option.some_inj] at hvalue
  -- some digit is not zero, so that not all of them are cut off
  have hne : S ≠ [] := by
    intro hnil
    rw [hnil, valueFrom?] at hn
    obtain rfl := Option.some.inj hn
    rw [Nat.zero_mul] at hvalue
    exact h hvalue.symm
  refine ⟨n, ?_, ?_⟩
  · rw [hnormal, Digits.value?_eq_valueFrom? hne, hn]
  · have hlen : d.exponent + ds.length - 1 + 1 - S.length = k + d.exponent := by
      rw [hk, List.length_append, List.length_replicate]
      omega
    rw [hnormal, hlen, zpow_add₀ (by norm_num), toRat, ← hvalue]
    push_cast
    rw [zpow_natCast, mul_assoc]

private theorem exponentPart_write (top : Int) :
    ExponentPart ('e' :: (if top < 0 then ['-'] else []) ++ Digits.write 10 top.natAbs 1) top := by
  have hv := Digits.value?_write (by decide : 1 < 10) (by decide) top.natAbs 1
  split
  · have := ExponentPart.negative hv
    rwa [show -(top.natAbs : Int) = top by omega] at this
  · have := ExponentPart.positive hv
    rwa [show (top.natAbs : Int) = top by omega] at this

private theorem exists_numeral_scientific {top : Int} (hv : value? 10 ds = some n) :
    ∃ d, Numeral (scientific ds top) d ∧ d.toRat = n * 10 ^ (top + 1 - ds.length) := by
  have hX := exponentPart_write top
  cases ds with
  | nil => nomatch hv
  | cons c F => cases F with
    | nil =>
      refine ⟨_, .whole (W := [c]) (by simp) (by simp) hv hX, ?_⟩
      simp [toRat]
    | cons c' F =>
      refine ⟨_, .pointed (W := [c]) (F := c' :: F) (by simp) (by simp) hv hX, ?_⟩
      rw [toRat]
      congr 2
      simp only [List.length_cons]
      omega

private theorem exists_numeral_pointed (hW : W ≠ []) (hF : F ≠ []) (hv : value? 10 (W ++ F) = some n) :
    ∃ d, Numeral (W ++ '.' :: F) d ∧ d.toRat = n * 10 ^ (-F.length : Int) := by
  have hnumeral := Numeral.pointed hW hF hv .absent
  rw [List.append_nil] at hnumeral
  exact ⟨_, hnumeral, by rw [toRat, Int.zero_sub]⟩

/-- Zeros between the point and the digits. -/
private theorem exists_numeral_front (hv : value? 10 ds = some n) (k : Nat) :
    ∃ d, Numeral ('0' :: '.' :: List.replicate k '0' ++ ds) d ∧ d.toRat = n * 10 ^ (-(k + ds.length : Nat) : Int) := by
  have hne : ds ≠ [] := by
    rintro rfl
    nomatch hv
  have hval : value? 10 (['0'] ++ (List.replicate k '0' ++ ds)) = some n := by
    have hzeros := @Digits.valueFrom?_zeros 10 0 (by decide) (k + 1)
    rw [List.replicate_succ] at hzeros
    rw [Digits.value?_eq_valueFrom? hne] at hv
    rw [Digits.value?_eq_valueFrom? (by simp), ← List.append_assoc, Digits.valueFrom?_append, List.singleton_append,
      hzeros, Nat.zero_mul, Option.bind_some, hv]
  obtain ⟨d, hd, hrat⟩ := exists_numeral_pointed (by simp) (by simp [hne]) hval
  rw [List.length_append, List.length_replicate] at hrat
  exact ⟨d, hd, hrat⟩

/-- Zeros between the digits and the point. -/
private theorem exists_numeral_behind (hv : value? 10 ds = some n) (k : Nat) :
    ∃ d, Numeral (ds ++ List.replicate k '0' ++ '.' :: ['0']) d ∧ d.toRat = n * 10 ^ (k : Int) := by
  have hne : ds ≠ [] := by
    rintro rfl
    nomatch hv
  have hval : value? 10 ((ds ++ List.replicate k '0') ++ ['0']) = some (n * 10 ^ (k + 1)) := by
    have hzeros := @Digits.valueFrom?_zeros 10 n (by decide) (k + 1)
    rw [List.replicate_succ'] at hzeros
    rw [Digits.value?_eq_valueFrom? hne] at hv
    rw [Digits.value?_eq_valueFrom? (by simp), List.append_assoc, Digits.valueFrom?_append, hv, Option.bind_some,
      hzeros]
  obtain ⟨d, hd, hrat⟩ := exists_numeral_pointed (by simp [hne]) (by simp) hval
  refine ⟨d, hd, ?_⟩
  rw [hrat, List.length_singleton, pow_succ]
  push_cast
  rw [zpow_neg, zpow_one, zpow_natCast]
  field_simp

/-- The point among the digits. -/
private theorem exists_numeral_among (hv : value? 10 ds = some n) {k : Nat} (hk : 0 < k) (hlen : k < ds.length) :
    ∃ d, Numeral (ds.take k ++ '.' :: ds.drop k) d ∧ d.toRat = n * 10 ^ (k - ds.length : Int) := by
  have hwhole : ds.take k ≠ [] := List.ne_nil_of_length_pos (by rw [List.length_take]; omega)
  have hfraction : ds.drop k ≠ [] := List.ne_nil_of_length_pos (by rw [List.length_drop]; omega)
  obtain ⟨d, hd, hrat⟩ := exists_numeral_pointed hwhole hfraction ((congrArg _ (List.take_append_drop k ds)).trans hv)
  have hexp : -((ds.length - k : Nat) : Int) = k - ds.length := by omega
  rw [List.length_drop, hexp] at hrat
  exact ⟨d, hd, hrat⟩

private theorem exists_numeral_positional {top : Int} (hv : value? 10 ds = some n) :
    ∃ d, Numeral (positional ds top) d ∧ d.toRat = n * 10 ^ (top + 1 - ds.length) := by
  unfold positional
  by_cases htop : top < 0
  · rw [if_pos htop]
    have hexp : (-((-top - 1).toNat + ds.length : Nat) : Int) = top + 1 - ds.length := by omega
    rw [← hexp]
    exact exists_numeral_front hv _
  · rw [if_neg htop]
    obtain ⟨t, rfl⟩ := Int.eq_ofNat_of_zero_le (by omega : 0 ≤ top)
    dsimp only
    rw [Int.toNat_natCast]
    by_cases hlen : ds.length ≤ t + 1
    · have hexp : ((t + 1 - ds.length : Nat) : Int) = t + 1 - ds.length := by omega
      rw [List.take_of_length_le hlen, List.drop_eq_nil_of_le hlen, ← hexp]
      exact exists_numeral_behind hv _
    · have hfraction : (ds.drop (t + 1)).isEmpty = false := by
        simp
        omega
      have hzeros : t + 1 - (ds.take (t + 1)).length = 0 := by
        rw [List.length_take]
        omega
      rw [hfraction, hzeros, List.replicate_zero, List.append_nil, if_neg (by simp)]
      exact exists_numeral_among hv (by omega) (by omega)

/-- The text of a decimal spells a decimal of the same value. -/
theorem exists_numeral_layout (h : d.digits ≠ 0) : ∃ d', Numeral d.layout d' ∧ d'.toRat = d.toRat := by
  obtain ⟨n, hv, hn⟩ := exists_normal h
  unfold layout
  generalize d.normal = p at *
  obtain ⟨ds, top⟩ := p
  dsimp only at *
  rw [← hn]
  split
  · exact exists_numeral_positional hv
  · exact exists_numeral_scientific hv

/-- The text of a magnitude spells a decimal that is rounded to it. -/
private theorem exists_numeral_magnitudeText {m : Nat} (h : Binary64.IsMagnitude m e) :
    ∃ d, Numeral (Binary64.magnitudeText m e (Binary64.magnitudeBits m e)) d ∧
      d.toBits = Binary64.magnitudeBits m e := by
  unfold Binary64.magnitudeText
  by_cases hm : m = 0
  · subst hm
    obtain ⟨_, _, _, rfl | hlead⟩ := h
    · exact ⟨⟨0, 0 - 1⟩, .pointed (W := ['0']) (F := ['0']) (by simp) (by simp) (by decide) .absent, by decide⟩
    · exact absurd hlead (by decide)
  · rw [if_neg hm]
    have hbits := toBits_shortest (Nat.pos_of_ne_zero hm) h
    have hdigits : (shortest m e (Binary64.magnitudeBits m e)).digits ≠ 0 := by
      intro hzero
      rw [toBits, if_pos hzero, Binary64.magnitudeBits] at hbits
      omega
    obtain ⟨d, hd, hrat⟩ := exists_numeral_layout hdigits
    exact ⟨d, hd, (toBits_congr hrat).trans hbits⟩

/-- The text of a finite double spells its magnitude behind its sign. -/
theorem exists_numeral_write {f : Float} {sign : Bool} {m : Nat} (hf : Binary64.ofFloat f = .finite sign m e)
    (nan positive negative : String) :
    ∃ cs d, (Binary64.write nan positive negative f).toList = (if sign then ['-'] else []) ++ cs ∧ Numeral cs d ∧
      (if sign then -toFloat false d else toFloat false d) = f := by
  obtain ⟨hmagnitude, hbits⟩ := Binary64.signedBits_of_ofBits hf
  have hmod : f.toBits.toNat % Binary64.signWeight = Binary64.magnitudeBits m e := by
    have hw : Binary64.signWeight = 2048 * Binary64.exponentWeight := rfl
    have hlt : Binary64.magnitudeBits m e < Binary64.signWeight := by
      obtain ⟨hmax, _, hmax', _⟩ := hmagnitude
      have := Nat.mul_le_mul_right Binary64.exponentWeight (by omega : (e + 1074).toNat ≤ 2045)
      unfold Binary64.magnitudeBits
      omega
    rw [hbits, Binary64.signedBits]
    split
    · rw [Nat.add_mod_left, Nat.mod_eq_of_lt hlt]
    · rw [Nat.zero_add, Nat.mod_eq_of_lt hlt]
  obtain ⟨d, hd, hdbits⟩ := exists_numeral_magnitudeText hmagnitude
  refine ⟨_, d, ?_, hd, ?_⟩
  · simp [Binary64.write, hf, hmod]
  · unfold toFloat
    rw [hdbits]
    cases sign with
    | false => exact Binary64.withSign_magnitudeBits hf
    | true => exact Binary64.neg_withSign_magnitudeBits hf

end ExprLang.Decimal
