import ExprLang.Proofs.Library.Conversion
import ExprLang.Proofs.Value.RoundTrip

/-!
# Decimal numerals of integers

An integer is written as one numeral by the function `string` and in the text of its value (`dispatch_string`,
`text_toValue`), and whoever reads this numeral finds the integer in it: the functions `int` and `uint`, each where its
kind has the number (`convert_numeral`), and source text, where a suffix tells the kind (`eval_numeral`). So all readers
and writers of integers agree, up to the bounds of both kinds (`numerals_agree`).
-/

namespace ExprLang

/-! ### Numerals that are written -/

namespace Digits

theorem isDigits_write (n : Nat) : IsDigits (write 10 n 1) ∧ n = Nat.ofDigitChars 10 (write 10 n 1) 0 :=
  value?_eq_some_iff.mp (value?_write (by decide) (by decide) n 1)

theorem writeInt_natCast (n : Nat) : writeInt n = write 10 n 1 := by
  rw [writeInt, if_neg (by omega), List.nil_append, Int.natAbs_natCast]

theorem intNumeral_writeInt (n : Int) : IntNumeral (writeInt n) n := by
  obtain ⟨hdigits, hvalue⟩ := isDigits_write n.natAbs
  by_cases hneg : n < 0
  · have hnumeral := IntNumeral.minus hdigits
    rw [← hvalue, Int.ofNat_natAbs_of_nonpos (by omega), neg_neg] at hnumeral
    rwa [writeInt, if_pos hneg]
  · have hnumeral := IntNumeral.plain hdigits
    rw [← hvalue, Int.natAbs_of_nonneg (by omega)] at hnumeral
    rwa [writeInt, if_neg hneg]

/-- Only negative numbers are written with a sign. -/
theorem head?_writeInt {n : Int} (h : 0 ≤ n) : (writeInt n).head? ≠ some '-' := by
  rw [writeInt, if_neg (by omega), List.nil_append]
  exact (Decimal.sign_of_isDigits (isDigits_write _).1).2.1

end Digits

namespace Integer

variable {matcher : Library.Matcher} {i j : Integer} {k : IntegerKind}

/-- The decimal numeral of the number, which is the same for both kinds. -/
def numeral (i : Integer) : String := String.ofList (Digits.writeInt i.number)

/-- What stands behind the numeral in source text. -/
def suffix : Integer → String
  | int _ => ""
  | uint _ => "u"

/-! ### Writing -/

theorem dispatch_string (matcher : Library.Matcher) (i : Integer) :
    (Library.standardWith matcher).dispatch "string" [i.toValue] = .ok (.string i.numeral) := by
  cases i with
  | int n => rfl
  | uint n =>
    change Library.toText (.uint n) = _
    rw [Library.toText, numeral, number, Digits.writeInt_natCast]

theorem text_toValue (i : Integer) : i.toValue.text = i.numeral ++ i.suffix := by
  cases i with
  | int n => exact String.append_empty.symm
  | uint n =>
    rw [toValue, Value.text, Literal.text, numeral, number, Digits.writeInt_natCast, String.ofList_append]
    rfl

/-! ### Reading -/

/-- The numeral is converted to the integer of the kind that has the same number. -/
theorem convert_numeral (hkind : j.kind = k) (hnumber : j.number = i.number) :
    k.convert matcher (.string i.numeral) = .ok j.toValue := by
  have hread : k.read? i.numeral.toList = some j := by
    rw [IntegerKind.read?_eq_some_iff, numeral, String.toList_ofList, ← hnumber]
    refine ⟨hkind, Digits.intNumeral_writeInt _, ?_⟩
    rintro ⟨rfl, hminus⟩
    have hholds := j.holds_number
    rw [hkind] at hholds
    exact Digits.head?_writeInt hholds.1 hminus
  rw [IntegerKind.convert_string, hread]
  rfl

/-- A kind that does not have the number refuses the numeral. -/
theorem convert_numeral_of_not_holds (h : ¬ k.Holds i.number) :
    k.convert matcher (.string i.numeral) = .error (Library.notConvertible (.string i.numeral) k.conversion) := by
  have hread : k.read? i.numeral.toList = none := by
    rw [Option.eq_none_iff_forall_ne_some]
    intro j hj
    rw [IntegerKind.read?_eq_some_iff, numeral, String.toList_ofList] at hj
    obtain ⟨rfl, hnumeral, -⟩ := hj
    rw [(Digits.intNumeral_writeInt i.number).unique hnumeral] at h
    exact h j.holds_number
  rw [IntegerKind.convert_string, hread]
  rfl

private theorem isFinite_toValue (i : Integer) : i.toValue.IsFinite := by
  intro f hf
  cases i <;> cases hf

private theorem height_toValue (i : Integer) : i.toValue.height = 1 := by
  cases i <;> rfl

/-- As source text the numeral, with the suffix of the kind, is the integer. -/
theorem eval_numeral (env : Environment) (scope : Scope) (hnesting : 0 < env.nesting) (i : Integer) :
    env.eval (i.numeral ++ i.suffix) scope = .ok i.toValue := by
  have hheight : i.toValue.height ≤ env.nesting := by
    rw [height_toValue]
    exact hnesting
  obtain ⟨e, hparse, htree⟩ := Value.parse_text (isFinite_toValue i) hheight
  rw [← text_toValue, eval_of_parse hparse, ← Expr.eval_erase, htree, Value.eval_tree]
  rfl

/-! ### All readers and writers -/

private theorem holds_int_iff (u : UInt64) :
    IntegerKind.int.Holds (uint u).number ↔ u.toNat ≤ Int64.maxValue.toInt := by
  have hmax : Int64.maxValue.toInt = 2 ^ 63 - 1 := by decide
  rw [IntegerKind.Holds, number, hmax]
  omega

/-- All readers and writers of integers agree. What `string` gives for an integer is the text of its value, up to the
suffix of a `uint`; the function of the kind reads the same integer from it, and so does source text. The function `int`
reads the numeral of a `uint` as the same number, as long as that is at most the greatest `int`. -/
theorem numerals_agree (matcher : Library.Matcher) :
    let call (name : String) (v : Value) := (Library.standardWith matcher).dispatch name [v]
    (∀ i : Int64, ∃ s, call "string" (.int i) = .ok (.string s) ∧ (Value.int i).text = s ∧
      call "int" (.string s) = .ok (.int i) ∧
      ∀ (env : Environment) (scope : Scope), 0 < env.nesting → env.eval s scope = .ok (.int i)) ∧
    ∀ u : UInt64, ∃ s, call "string" (.uint u) = .ok (.string s) ∧ (Value.uint u).text = s ++ "u" ∧
      call "uint" (.string s) = .ok (.uint u) ∧
      (∀ (env : Environment) (scope : Scope), 0 < env.nesting → env.eval (s ++ "u") scope = .ok (.uint u)) ∧
      (u.toNat ≤ Int64.maxValue.toInt →
        ∃ i : Int64, i.toInt = u.toNat ∧ call "int" (.string s) = .ok (.int i)) ∧
      (Int64.maxValue.toInt < u.toNat →
        call "int" (.string s) = .error (Library.notConvertible (.string s) "int")) := by
  intro call
  constructor
  · intro i
    have hempty : (int i).numeral ++ (int i).suffix = (int i).numeral := String.append_empty
    refine ⟨(int i).numeral, dispatch_string matcher (int i), ?_, convert_numeral (k := .int) (j := int i) rfl rfl, ?_⟩
    · exact (text_toValue (int i)).trans hempty
    · intro env scope hnesting
      have heval := eval_numeral env scope hnesting (int i)
      rwa [hempty] at heval
  · intro u
    refine ⟨(uint u).numeral, dispatch_string matcher (uint u), text_toValue (uint u),
      convert_numeral (k := .uint) (j := uint u) rfl rfl, fun env scope h => eval_numeral env scope h (uint u), ?_, ?_⟩
    · intro hle
      obtain ⟨j, hkind, hnumber⟩ := IntegerKind.exists_integer ((holds_int_iff u).mpr hle)
      have hconvert : IntegerKind.int.convert matcher (.string (uint u).numeral) = .ok j.toValue :=
        convert_numeral hkind hnumber
      cases j with
      | int i => exact ⟨i, hnumber, hconvert⟩
      | uint v => cases hkind
    · intro hlt
      exact convert_numeral_of_not_holds (k := .int) fun h => absurd ((holds_int_iff u).mp h) (not_le.mpr hlt)

/-- The least `int`, whose magnitude is no `int`, and the greatest `uint`. -/
theorem numerals_agree_extremes :
    let least := "-9223372036854775808"
    let greatest := "18446744073709551615"
    0 < Environment.standard.nesting ∧
    Library.standard.dispatch "string" [.int Int64.minValue] = .ok (.string least) ∧
    Library.standard.dispatch "int" [.string least] = .ok (.int Int64.minValue) ∧
    Environment.standard.eval least .empty = .ok (.int Int64.minValue) ∧
    Int64.maxValue.toInt < (18446744073709551615 : UInt64).toNat ∧
    Environment.standard.eval (greatest ++ "u") .empty = .ok (.uint 18446744073709551615) ∧
    Library.standard.dispatch "int" [.string greatest] = .error (Library.notConvertible (.string greatest) "int") := by
  intro least greatest
  have hnesting : 0 < Environment.standard.nesting := by decide
  have hbeyond : Int64.maxValue.toInt < (18446744073709551615 : UInt64).toNat := by decide
  obtain ⟨s, hstring, htext, hint, heval⟩ := (numerals_agree Regex.matcher).1 Int64.minValue
  obtain ⟨t, -, htext', -, heval', -, hrefused⟩ := (numerals_agree Regex.matcher).2 18446744073709551615
  have hleast : (Value.int Int64.minValue).text = least := by decide +kernel
  have hgreatest : (Value.uint 18446744073709551615).text = greatest ++ "u" := by decide +kernel
  obtain rfl : s = least := htext.symm.trans hleast
  obtain rfl : t = greatest := (String.append_left_inj "u").mp (htext'.symm.trans hgreatest)
  exact ⟨hnesting, hstring, hint, heval _ _ hnesting, hbeyond, heval' _ _ hnesting, hrefused hbeyond⟩

end Integer

end ExprLang
