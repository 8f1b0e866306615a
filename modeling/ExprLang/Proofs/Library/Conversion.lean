import ExprLang.Library.Standard
import ExprLang.Proofs.Eval.Integers
import ExprLang.Proofs.Number.Cut
import ExprLang.Proofs.Number.IntNumeral
import ExprLang.Proofs.Value.Equality

/-!
# Conversions to integers

`int` and `uint` give the number that a value denotes, cut toward zero, and overflow where it does not fit. A double is
compared with bounds that are doubles themselves before it is cut, which says the same about what is left of it
(`floatToInt_of_finite`, `floatToUInt_of_finite`). Only numerals are treated otherwise: one that does not fit is refused
like a text that is no numeral, and so is, by `uint`, every numeral with a minus sign (`converts_exactly_iff`).
-/

namespace ExprLang

/-- The value is the number, or a text that spells it. -/
inductive Value.Denotes : Value → ℚ → Prop
  | number {v : Value} {q : ℚ} (h : v.rational? = some q) : Denotes v q
  | numeral {s : String} {n : Int} (h : IntNumeral s.toList n) : Denotes (.string s) n

namespace IntegerKind

/-- The function that converts to the kind. -/
def conversion : IntegerKind → String
  | int => "int"
  | uint => "uint"

/-- A value converted to the kind by the standard function. -/
def convert (k : IntegerKind) (matcher : Library.Matcher) (v : Value) : Outcome Value :=
  (Library.standardWith matcher).dispatch k.conversion [v]

/-- A number as a value of the kind, if it fits. -/
def checked : IntegerKind → String → Int → Outcome Value
  | int, operation, n => (Arithmetic.toInt operation n).map .int
  | uint, operation, n => (Arithmetic.toUInt operation n).map .uint

/-- The conversion of a value to the kind is the number that the value denotes, cut toward zero, if it fits, and an
overflow if it does not or if there is no number in a double. A text that is no numeral is an invalid argument. -/
structure ConvertsExactly (k : IntegerKind) (matcher : Library.Matcher) (v : Value) : Prop where
  value (n : Int) : (∃ i : Integer, i.kind = k ∧ i.number = n ∧ k.convert matcher v = .ok i.toValue) ↔
    (∃ q, v.Denotes q ∧ cut q = n) ∧ k.Holds n
  overflow : (∃ e, k.convert matcher v = .error e ∧ e.kind = .overflow) ↔
    (∃ q, v.Denotes q ∧ ¬ k.Holds (cut q)) ∨ ∃ f, v = .float f ∧ (f.isNaN = true ∨ f.isInf = true)
  invalid : (∃ e, k.convert matcher v = .error e ∧ e.kind = .invalidArgument) ↔
    ∃ s, v = .string s ∧ ∀ n, ¬ IntNumeral s.toList n

/-- The value is a numeral that the conversion to the kind takes for none: one that does not fit, or one with a minus
sign where the kind has no signs. -/
def Misread (k : IntegerKind) (v : Value) : Prop :=
  ∃ s n, v = .string s ∧ IntNumeral s.toList n ∧ (¬ k.Holds n ∨ k = .uint ∧ s.toList.head? = some '-')

end IntegerKind

/-! ### Doubles -/

namespace Library

open Binary64 (ofFloat toRat)

variable {f : Float} {s : Bool} {m : Nat} {e : Int}

/-- The bounds of `int` are those of what is left of a double: below the lower one nothing is cut off. -/
theorem floatToInt_of_finite (hf : ofFloat f = .finite s m e) :
    floatToInt f = Arithmetic.toInt "double to int conversion" (cut (toRat s m e)) := by
  have hmagnitude := Binary64.isMagnitude_of_ofFloat hf
  have hlow : f < -9223372036854775808 ↔ cut (toRat s m e) < -2 ^ 63 := by
    rw [Binary64.cut_toRat_lt_iff hmagnitude (by decide)]
    exact Binary64.lt_bound_iff hf (by decide +kernel)
  have hhigh : 9223372036854775808 ≤ f ↔ 2 ^ 63 ≤ cut (toRat s m e) := by
    rw [← not_lt, cut_lt_iff (by decide), not_lt]
    exact Binary64.bound_le_iff hf (by decide +kernel)
  have hfits : (f.isNaN = true ∨ f < -9223372036854775808 ∨ 9223372036854775808 ≤ f) ↔
      ¬ IntegerKind.int.Holds (cut (toRat s m e)) := by
    rw [hlow, hhigh, or_iff_right (Binary64.not_isNaN hf), IntegerKind.Holds]
    omega
  by_cases h : IntegerKind.int.Holds (cut (toRat s m e))
  · obtain ⟨r, hr, hnumber⟩ := Arithmetic.toInt_of_holds "double to int conversion" h
    have hcast : (Binary64.toInt64 (Binary64.truncate f)).toInt = cut (toRat s m e) := by
      rw [← Binary64.wholeInt_eq_cut] at h ⊢
      exact Binary64.toInt_toInt64_truncate hf h.1 h.2
    rw [floatToInt, if_neg (not_not.mpr h ∘ hfits.mp), hr, Int64.toInt_inj.mp (hcast.trans hnumber.symm)]
  · rw [floatToInt, if_pos (hfits.mpr h), Arithmetic.toInt_of_not_holds _ h]

theorem floatToUInt_of_finite (hf : ofFloat f = .finite s m e) :
    floatToUInt f = Arithmetic.toUInt "double to uint conversion" (cut (toRat s m e)) := by
  have hlow : f ≤ -1 ↔ cut (toRat s m e) < 0 := by
    rw [← not_le, le_cut_iff le_rfl, not_lt]
    exact (Binary64.le_bound_iff hf (by decide +kernel : Exact.ofFloat (-1) = .ofInt (-1))).trans (by norm_num)
  have hhigh : 18446744073709551616 ≤ f ↔ 2 ^ 64 ≤ cut (toRat s m e) := by
    rw [← not_lt, cut_lt_iff (by decide), not_lt]
    exact Binary64.bound_le_iff hf (by decide +kernel)
  have hfits : (f.isNaN = true ∨ f ≤ -1 ∨ 18446744073709551616 ≤ f) ↔
      ¬ IntegerKind.uint.Holds (cut (toRat s m e)) := by
    rw [hlow, hhigh, or_iff_right (Binary64.not_isNaN hf), IntegerKind.Holds]
    omega
  by_cases h : IntegerKind.uint.Holds (cut (toRat s m e))
  · obtain ⟨r, hr, hnumber⟩ := Arithmetic.toUInt_of_holds "double to uint conversion" h
    have hcast : ((Binary64.truncate f).toUInt64.toNat : Int) = cut (toRat s m e) := by
      rw [← Binary64.wholeInt_eq_cut] at h ⊢
      exact Binary64.toNat_toUInt64_truncate hf h.1 h.2
    rw [floatToUInt, if_neg (not_not.mpr h ∘ hfits.mp), hr,
      UInt64.toNat_inj.mp (Int.ofNat_inj.mp (hcast.trans hnumber.symm))]
  · rw [floatToUInt, if_pos (hfits.mpr h), Arithmetic.toUInt_of_not_holds _ h]

theorem floatToInt_of_not_finite (h : f.isNaN = true ∨ f.isInf = true) :
    floatToInt f = .error (.overflow "double to int conversion") := by
  have hlow : Exact.ofFloat (-9223372036854775808) = .ofInt (-2 ^ 63) := by decide +kernel
  have hhigh : Exact.ofFloat 9223372036854775808 = .ofInt (2 ^ 63) := by decide +kernel
  refine if_pos (h.imp_right fun hinf => ?_)
  exact (Binary64.beyond_of_isInf hinf hlow hhigh).imp_left And.left

theorem floatToUInt_of_not_finite (h : f.isNaN = true ∨ f.isInf = true) :
    floatToUInt f = .error (.overflow "double to uint conversion") := by
  have hlow : Exact.ofFloat (-1) = .ofInt (-1) := by decide +kernel
  have hhigh : Exact.ofFloat 18446744073709551616 = .ofInt (2 ^ 64) := by decide +kernel
  refine if_pos (h.imp_right fun hinf => ?_)
  exact (Binary64.beyond_of_isInf hinf hlow hhigh).imp_left And.right

end Library

/-! ### Numbers that values denote -/

namespace Value

variable {v : Value} {p q : ℚ} {f : Float} {t : String}

theorem rational?_float {s : Bool} {m : Nat} {e : Int} (hf : Binary64.ofFloat f = .finite s m e) :
    (float f).rational? = some (Binary64.toRat s m e) := by
  rw [rational?, hf, Binary64.toRat]
  cases s <;> simp

theorem Denotes.unique (hp : v.Denotes p) (hq : v.Denotes q) : p = q := by
  cases hp with
  | number hp =>
    cases hq with
    | number hq => exact Option.some.inj (hp.symm.trans hq)
    | numeral hq => cases hp
  | numeral hp =>
    cases hq with
    | number hq => cases hq
    | numeral hq => rw [hp.unique hq]

theorem not_denotes_float (h : f.isNaN = true ∨ f.isInf = true) : ¬ (float f).Denotes q := by
  intro hq
  cases hq with
  | number hq =>
    rw [Binary64.isNaN_iff, Binary64.isInf_iff] at h
    rcases h with h | ⟨s, h⟩
    all_goals
      rw [rational?, h] at hq
      cases hq

theorem not_denotes_string (h : ∀ n, ¬ IntNumeral t.toList n) : ¬ (string t).Denotes q := by
  intro hq
  cases hq with
  | number hq => cases hq
  | numeral hn => exact h _ hn

end Value

/-! ### Integers of a kind -/

namespace Integer

theorem holds_number (i : Integer) : i.kind.Holds i.number := by
  cases i with
  | int n => exact Arithmetic.holds_toInt n
  | uint n => exact Arithmetic.holds_toNat n

theorem toValue_inj {i j : Integer} (h : i.toValue = j.toValue) : i = j := by
  cases i with
  | int n =>
    cases j with
    | int m => rw [Value.int.inj h]
    | uint m => cases h
  | uint n =>
    cases j with
    | int m => cases h
    | uint m => rw [Value.uint.inj h]

end Integer

namespace IntegerKind

variable {matcher : Library.Matcher} {k : IntegerKind} {v : Value} {q : ℚ} {n : Int} {cs : List Char}

/-- A number that fits is an integer of the kind, and one that does not is an overflow. -/
theorem checked_cases (k : IntegerKind) (operation : String) (n : Int) :
    (∃ i : Integer, i.kind = k ∧ i.number = n ∧ k.checked operation n = .ok i.toValue) ∨
    (¬ k.Holds n ∧ k.checked operation n = .error (.overflow operation)) := by
  by_cases h : k.Holds n
  · left
    cases k with
    | int =>
      obtain ⟨r, hr, hnumber⟩ := Arithmetic.toInt_of_holds operation h
      exact ⟨.int r, rfl, hnumber, by rw [checked, hr]; rfl⟩
    | uint =>
      obtain ⟨r, hr, hnumber⟩ := Arithmetic.toUInt_of_holds operation h
      exact ⟨.uint r, rfl, hnumber, by rw [checked, hr]; rfl⟩
  · right
    cases k with
    | int => exact ⟨h, by rw [checked, Arithmetic.toInt_of_not_holds operation h]; rfl⟩
    | uint => exact ⟨h, by rw [checked, Arithmetic.toUInt_of_not_holds operation h]; rfl⟩

theorem exists_integer (h : k.Holds n) : ∃ i : Integer, i.kind = k ∧ i.number = n := by
  rcases k.checked_cases "" n with ⟨i, hkind, hnumber, -⟩ | ⟨hnot, -⟩
  · exact ⟨i, hkind, hnumber⟩
  · exact absurd h hnot

/-- The integer of the kind that a text is read as. -/
def read? (cs : List Char) : IntegerKind → Option Integer
  | int => ((Decimal.readInt? cs).bind Arithmetic.toInt?).map .int
  | uint => ((Decimal.readNat? cs).bind fun n => Arithmetic.toUInt? n).map .uint

/-- A text is read as an integer of the kind if it is its numeral, without a minus sign where the kind has no signs. -/
theorem read?_eq_some_iff {i : Integer} :
    k.read? cs = some i ↔ i.kind = k ∧ IntNumeral cs i.number ∧ ¬ (k = .uint ∧ cs.head? = some '-') := by
  cases k with
  | int =>
    simp only [read?, Option.map_eq_some_iff, Option.bind_eq_some_iff, Arithmetic.toInt?_eq_some_iff,
      Decimal.readInt?_eq_some_iff]
    constructor
    · rintro ⟨r, ⟨n, hn, rfl⟩, rfl⟩
      exact ⟨rfl, hn, by simp⟩
    · rintro ⟨hkind, hn, -⟩
      cases i with
      | int r => exact ⟨r, ⟨_, hn, rfl⟩, rfl⟩
      | uint r => cases hkind
  | uint =>
    simp only [read?, Option.map_eq_some_iff, Option.bind_eq_some_iff, Arithmetic.toUInt?_eq_some_iff,
      Decimal.readNat?_eq_some_iff]
    constructor
    · rintro ⟨r, ⟨n, ⟨hn, hminus⟩, hr⟩, rfl⟩
      obtain rfl := Int.ofNat_inj.mp hr
      exact ⟨rfl, hn, by simpa using hminus⟩
    · rintro ⟨hkind, hn, hminus⟩
      cases i with
      | int r => cases hkind
      | uint r => exact ⟨r, ⟨r.toNat, ⟨hn, by simpa using hminus⟩, rfl⟩, rfl⟩

theorem convert_string (k : IntegerKind) (t : String) :
    k.convert matcher (.string t) =
      Library.orError (Library.notConvertible (.string t) k.conversion) ((k.read? t.toList).map Integer.toValue) := by
  cases k with
  | int =>
    change Library.toInt (.string t) = _
    rw [Library.toInt, read?]
    cases (Decimal.readInt? t.toList).bind Arithmetic.toInt? <;> rfl
  | uint =>
    change Library.toUInt (.string t) = _
    rw [Library.toUInt, read?]
    cases (Decimal.readNat? t.toList).bind fun n => Arithmetic.toUInt? n <;> rfl

/-! ### Exact conversions -/

/-- What the conversion of a value to the kind has to give. -/
inductive Converts (k : IntegerKind) (v : Value) : Outcome Value → Prop
  | number {q : ℚ} {i : Integer} (hq : v.Denotes q) (hkind : i.kind = k) (hcut : i.number = cut q) :
    Converts k v (.ok i.toValue)
  | beyond {q : ℚ} (hq : v.Denotes q) (hholds : ¬ k.Holds (cut q)) (operation : String) :
    Converts k v (.error (.overflow operation))
  | notFinite {f : Float} (hv : v = .float f) (hf : f.isNaN = true ∨ f.isInf = true) (operation : String) :
    Converts k v (.error (.overflow operation))
  | noNumeral {t : String} (hv : v = .string t) (ht : ∀ n, ¬ IntNumeral t.toList n) (message : String) :
    Converts k v (.error (.invalidArgument message))

theorem converts_checked (hq : v.Denotes q) (operation : String) (hn : cut q = n) :
    k.Converts v (k.checked operation n) := by
  subst hn
  rcases k.checked_cases operation (cut q) with ⟨i, hkind, hcut, hok⟩ | ⟨hholds, herror⟩
  · rw [hok]
    exact .number hq hkind hcut
  · rw [herror]
    exact .beyond hq hholds operation

/-- Numbers are converted exactly. -/
theorem converts_number (k : IntegerKind) (hv : v.kind = .int ∨ v.kind = .uint ∨ v.kind = .float) :
    k.Converts v (k.convert matcher v) := by
  cases v with
  | int n =>
    have hn : (Value.int n).Denotes n.toInt := .number rfl
    cases k with
    | int => exact .number (i := .int n) hn rfl (cut_intCast _).symm
    | uint => exact converts_checked hn "int to uint conversion" (cut_intCast _)
  | uint n =>
    have hn : (Value.uint n).Denotes n.toNat := .number rfl
    cases k with
    | int => exact converts_checked hn "uint to int conversion" (cut_natCast _)
    | uint => exact .number (i := .uint n) hn rfl (cut_natCast _).symm
  | float f =>
    have hint : int.convert matcher (.float f) = (Library.floatToInt f).map .int := rfl
    have huint : uint.convert matcher (.float f) = (Library.floatToUInt f).map .uint := rfl
    cases hf : Binary64.ofFloat f with
    | finite s m e =>
      have hq : (Value.float f).Denotes (Binary64.toRat s m e) := .number (Value.rational?_float hf)
      cases k with
      | int =>
        rw [hint, Library.floatToInt_of_finite hf]
        exact converts_checked hq "double to int conversion" rfl
      | uint =>
        rw [huint, Library.floatToUInt_of_finite hf]
        exact converts_checked hq "double to uint conversion" rfl
    | _ =>
      have hnot : f.isNaN = true ∨ f.isInf = true := by
        rw [Binary64.isNaN_iff, Binary64.isInf_iff, hf]
        simp
      cases k with
      | int =>
        rw [hint, Library.floatToInt_of_not_finite hnot]
        exact .notFinite rfl hnot _
      | uint =>
        rw [huint, Library.floatToUInt_of_not_finite hnot]
        exact .notFinite rfl hnot _
  | _ => simp [Value.kind] at hv

/-- A text is converted exactly unless it is misread. -/
theorem converts_string (k : IntegerKind) {t : String} (h : ¬ k.Misread (.string t)) :
    k.Converts (.string t) (k.convert matcher (.string t)) := by
  rw [convert_string]
  cases hread : k.read? t.toList with
  | some i =>
    obtain ⟨hkind, hn, -⟩ := read?_eq_some_iff.mp hread
    exact .number (.numeral hn) hkind (cut_intCast _).symm
  | none =>
    refine .noNumeral rfl (fun n hn => h ⟨t, n, rfl, hn, ?_⟩) _
    by_contra hfits
    rw [not_or, not_not] at hfits
    obtain ⟨i, hkind, rfl⟩ := exists_integer hfits.1
    rw [read?_eq_some_iff.mpr ⟨hkind, hn, hfits.2⟩] at hread
    cases hread

/-- A text that is misread is an invalid argument. -/
theorem convert_of_misread (h : k.Misread v) :
    k.convert matcher v = .error (Library.notConvertible v k.conversion) := by
  obtain ⟨t, n, rfl, hn, hmisread⟩ := h
  rw [convert_string]
  cases hread : k.read? t.toList with
  | none => rfl
  | some i =>
    obtain ⟨rfl, hi, hminus⟩ := read?_eq_some_iff.mp hread
    obtain rfl := hi.unique hn
    exact absurd hmisread (not_or.mpr ⟨not_not.mpr i.holds_number, hminus⟩)

/-- A value that denotes a number is neither an infinity or not-a-number nor a text that is no numeral. -/
theorem not_excluded_of_denotes (hq : v.Denotes q) : (¬ ∃ f, v = .float f ∧ (f.isNaN = true ∨ f.isInf = true)) ∧
    ¬ ∃ t, v = .string t ∧ ∀ n, ¬ IntNumeral t.toList n := by
  constructor
  · rintro ⟨f, rfl, hf⟩
    exact Value.not_denotes_float hf hq
  · rintro ⟨t, rfl, ht⟩
    exact Value.not_denotes_string ht hq

section Failures

variable {e : EvalError} (h : k.convert matcher v = .error e)
include h

theorem no_value_of_error :
    ¬ ∃ i : Integer, i.kind = k ∧ i.number = n ∧ k.convert matcher v = .ok i.toValue := by
  rintro ⟨i, -, -, hvalue⟩
  cases h.symm.trans hvalue

theorem fails_iff_kind_eq (kind : ErrorKind) :
    (∃ e', k.convert matcher v = .error e' ∧ e'.kind = kind) ↔ e.kind = kind := by
  constructor
  · rintro ⟨e', he', hkind⟩
    rwa [← Except.error.inj (h.symm.trans he')] at hkind
  · exact fun hkind => ⟨e, h, hkind⟩

end Failures

/-- The conditions of the four cases exclude one another. -/
theorem ConvertsExactly.of_converts (h : k.Converts v (k.convert matcher v)) : k.ConvertsExactly matcher v := by
  have hkinds : ErrorKind.overflow ≠ .invalidArgument := by decide
  generalize hx : k.convert matcher v = x at h
  cases h with
  | @number q i hq hkind hcut =>
    obtain ⟨hfinite, hnumeral⟩ := not_excluded_of_denotes hq
    have hholds : k.Holds (cut q) := by
      rw [← hcut, ← hkind]
      exact i.holds_number
    have hok (kind : ErrorKind) : ¬ ∃ e, k.convert matcher v = .error e ∧ e.kind = kind := by
      rintro ⟨e, he, -⟩
      cases hx.symm.trans he
    refine ⟨fun n => ⟨?_, ?_⟩, iff_of_false (hok _) ?_, iff_of_false (hok _) hnumeral⟩
    · rintro ⟨j, hj, rfl, hvalue⟩
      obtain rfl := Integer.toValue_inj (Except.ok.inj (hx.symm.trans hvalue))
      exact ⟨⟨q, hq, hcut.symm⟩, hcut ▸ hholds⟩
    · rintro ⟨⟨p, hp, rfl⟩, -⟩
      exact ⟨i, hkind, by rw [hcut, hq.unique hp], hx⟩
    · rintro (⟨p, hp, hnot⟩ | hf)
      · exact hnot (hq.unique hp ▸ hholds)
      · exact hfinite hf
  | @beyond q hq hholds operation =>
    obtain ⟨-, hnumeral⟩ := not_excluded_of_denotes hq
    refine ⟨fun n => iff_of_false (no_value_of_error hx) ?_, (fails_iff_kind_eq hx _).trans (iff_of_true rfl ?_),
      (fails_iff_kind_eq hx _).trans (iff_of_false hkinds hnumeral)⟩
    · rintro ⟨⟨p, hp, rfl⟩, hfits⟩
      exact hholds (hq.unique hp ▸ hfits)
    · exact .inl ⟨q, hq, hholds⟩
  | @notFinite f hv hf operation =>
    refine ⟨fun n => iff_of_false (no_value_of_error hx) ?_, (fails_iff_kind_eq hx _).trans (iff_of_true rfl ?_),
      (fails_iff_kind_eq hx _).trans (iff_of_false hkinds ?_)⟩
    · rintro ⟨⟨q, hq, -⟩, -⟩
      exact Value.not_denotes_float hf (hv ▸ hq)
    · exact .inr ⟨f, hv, hf⟩
    · rintro ⟨t, ht, -⟩
      cases hv.symm.trans ht
  | @noNumeral t hv ht message =>
    refine ⟨fun n => iff_of_false (no_value_of_error hx) ?_,
      (fails_iff_kind_eq hx _).trans (iff_of_false hkinds.symm ?_), (fails_iff_kind_eq hx _).trans (iff_of_true rfl ?_)⟩
    · rintro ⟨⟨q, hq, -⟩, -⟩
      exact Value.not_denotes_string ht (hv ▸ hq)
    · rintro (⟨q, hq, -⟩ | ⟨f, hf, -⟩)
      · exact Value.not_denotes_string ht (hv ▸ hq)
      · cases hv.symm.trans hf
    · exact ⟨t, hv, ht⟩

/-- Conversions are exact just where no numeral is misread; where one is, it is refused as no numeral. -/
theorem converts_exactly_iff (matcher : Library.Matcher) (k : IntegerKind) (v : Value)
    (hv : v.kind ∈ Library.numericOrString) :
    (k.ConvertsExactly matcher v ↔ ¬ k.Misread v) ∧
      (k.Misread v → k.convert matcher v = .error (Library.notConvertible v k.conversion)) := by
  have hexact (h : ¬ k.Misread v) : k.ConvertsExactly matcher v := by
    have hkinds : v.kind = .int ∨ v.kind = .uint ∨ v.kind = .float ∨ v.kind = .string := by
      simpa [Library.numericOrString] using hv
    by_cases hstring : v.kind = .string
    · cases v with
      | string t => exact .of_converts (converts_string k h)
      | _ => cases hstring
    · exact .of_converts (converts_number k (by tauto))
  refine ⟨⟨fun hconverts hmisread => ?_, hexact⟩, convert_of_misread⟩
  obtain ⟨t, ht, hnone⟩ := hconverts.invalid.mp ⟨_, convert_of_misread hmisread, rfl⟩
  obtain ⟨t', n, ht', hn, -⟩ := hmisread
  obtain rfl := Value.string.inj (ht.symm.trans ht')
  exact hnone n hn

/-- The least `int` is converted from a double, and a zero with a minus sign is no `uint`. -/
theorem convert_least_and_zero :
    let least : Value := .float (-9223372036854775808)
    let zero : Value := .string "-0"
    least.kind ∈ Library.numericOrString ∧ zero.kind ∈ Library.numericOrString ∧
    int.ConvertsExactly Regex.matcher least ∧
    (∃ i : Integer, i.number = -2 ^ 63 ∧ int.convert Regex.matcher least = .ok i.toValue) ∧
    uint.Misread zero ∧ uint.convert Regex.matcher zero = .error (Library.notConvertible zero "uint") := by
  intro least zero
  have hleast : least.kind ∈ Library.numericOrString := by decide
  have hzero : zero.kind ∈ Library.numericOrString := by decide
  have hread : ¬ int.Misread least := by
    rintro ⟨t, n, ht, -⟩
    have hkind : Kind.float = .string := congrArg Value.kind ht
    cases hkind
  have hexact : int.ConvertsExactly Regex.matcher least :=
    (converts_exactly_iff Regex.matcher int least hleast).1.mpr hread
  have hfloat : Binary64.ofFloat (-9223372036854775808) = .finite true (2 ^ 52) 11 := by decide +kernel
  have hrat : Binary64.toRat true (2 ^ 52) 11 = (-2 ^ 63 : ℤ) := by norm_num [Binary64.toRat]
  have hdenotes : least.Denotes (-2 ^ 63 : ℤ) := hrat ▸ .number (Value.rational?_float hfloat)
  obtain ⟨i, -, hnumber, hvalue⟩ := (hexact.value (-2 ^ 63)).mpr ⟨⟨_, hdenotes, cut_intCast _⟩, by decide⟩
  have hmisread : uint.Misread zero :=
    ⟨"-0", 0, rfl, Decimal.readInt?_eq_some_iff.mp (by decide +kernel), .inr ⟨rfl, by decide +kernel⟩⟩
  exact ⟨hleast, hzero, hexact, ⟨i, hnumber, hvalue⟩, hmisread,
    (converts_exactly_iff Regex.matcher uint zero hzero).2 hmisread⟩

/-- The numeral of the least integer beyond `int` is refused, and not as an overflow. -/
theorem not_converts_exactly :
    ¬ ∀ (k : IntegerKind) (v : Value), v.kind ∈ Library.numericOrString → k.ConvertsExactly Regex.matcher v := by
  intro h
  let t : String := "9223372036854775808"
  have hnumeral : IntNumeral t.toList 9223372036854775808 := Decimal.readInt?_eq_some_iff.mp (by decide +kernel)
  have hbeyond : ¬ int.Holds (cut (9223372036854775808 : ℤ)) := by
    rw [cut_intCast]
    decide
  have hread : ((Decimal.readInt? t.toList).bind Arithmetic.toInt?) = none := by decide +kernel
  have hconvert : int.convert Regex.matcher (.string t) = .error (Library.notConvertible (.string t) "int") := by
    rw [convert_string, read?, hread]
    rfl
  obtain ⟨e, he, hkind⟩ := (h int (.string t) (by decide)).overflow.mpr (.inl ⟨_, .numeral hnumeral, hbeyond⟩)
  rw [hconvert] at he
  cases he
  cases hkind

end IntegerKind

end ExprLang
