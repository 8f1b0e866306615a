import ExprLang.Number.Decimal

/-!
# Numerals of integers

A numeral of an integer is at least one decimal digit, perhaps behind a sign. The text of an `int` is read as such a
numeral (`readInt?_eq_some_iff`), and that of a `uint` as one without a minus sign, also in front of a zero
(`readNat?_eq_some_iff`).
-/

namespace ExprLang

/-- At least one digit, and nothing else. -/
def IsDigits (ds : List Char) : Prop := ds ≠ [] ∧ ∀ c ∈ ds, c.isDigit = true

/-- Digits, perhaps behind a sign, with the integer that they spell. -/
inductive IntNumeral : List Char → Int → Prop
  | plain {ds : List Char} (h : IsDigits ds) : IntNumeral ds (Nat.ofDigitChars 10 ds 0)
  | plus {ds : List Char} (h : IsDigits ds) : IntNumeral ('+' :: ds) (Nat.ofDigitChars 10 ds 0)
  | minus {ds : List Char} (h : IsDigits ds) : IntNumeral ('-' :: ds) (-Nat.ofDigitChars 10 ds 0)

namespace Digits

variable {n m : Nat} {ds : List Char}

theorem digit?_ten (c : Char) : digit? 10 c = if c.isDigit then some (c.toNat - '0'.toNat) else none := by
  by_cases h : '0' ≤ c ∧ c ≤ '9'
  · have hdigit : c.isDigit = true := by
      rw [Char.isDigit, Bool.and_eq_true, decide_eq_true_iff, decide_eq_true_iff]
      exact h
    have hle : c.toNat ≤ 57 := h.2
    have hlt : c.toNat - '0'.toNat < 10 := by
      have : '0'.toNat = 48 := rfl
      omega
    simp only [digit?, if_pos h, if_pos hlt, if_pos hdigit]
  · have hdigit : ¬ c.isDigit = true := by
      rw [Char.isDigit, Bool.and_eq_true, decide_eq_true_iff, decide_eq_true_iff]
      exact h
    -- the letters are digits of greater bases only
    rw [digit?, if_neg hdigit, if_neg h]
    split
    · exact if_neg (by omega)
    · split <;> exact if_neg (by omega)

theorem valueFrom?_eq_some_iff :
    valueFrom? 10 n ds = some m ↔ (∀ c ∈ ds, c.isDigit = true) ∧ m = Nat.ofDigitChars 10 ds n := by
  induction ds generalizing n with
  | nil => exact ⟨fun h => ⟨List.forall_mem_nil _, (Option.some.inj h).symm⟩, fun h => congrArg some h.2.symm⟩
  | cons c ds ih =>
    rw [valueFrom?, digit?_ten, List.forall_mem_cons, Nat.ofDigitChars_cons]
    by_cases h : c.isDigit = true
    · simp only [h, if_true, Option.bind_some, ih, true_and, Nat.mul_comm 10]
    · rw [if_neg h, Option.bind_none]
      exact iff_of_false (Option.some_ne_none m).symm fun hall => h hall.1.1

theorem value?_eq_some_iff : value? 10 ds = some n ↔ IsDigits ds ∧ n = Nat.ofDigitChars 10 ds 0 := by
  cases ds with
  | nil => simp [value?, IsDigits]
  | cons c ds =>
    rw [value?, valueFrom?_eq_some_iff, IsDigits]
    simp

end Digits

namespace Decimal

variable {cs : List Char} {n : Int}

/-- Digits begin with no sign. -/
theorem sign_of_isDigits (h : IsDigits cs) : sign cs = (false, cs) ∧ cs.head? ≠ some '-' ∧ cs.head? ≠ some '+' := by
  obtain ⟨hne, hds⟩ := h
  cases cs with
  | nil => exact absurd rfl hne
  | cons c ds =>
    have hc : c.isDigit = true := hds c (List.mem_cons_self ..)
    have hminus : c ≠ '-' := by
      rintro rfl
      cases hc
    have hplus : c ≠ '+' := by
      rintro rfl
      cases hc
    exact ⟨by simp [sign, hminus, hplus], by simpa using hminus, by simpa using hplus⟩

theorem readInt?_eq_some_iff : readInt? cs = some n ↔ IntNumeral cs n := by
  constructor
  · intro h
    rw [readInt?, Option.map_eq_some_iff] at h
    obtain ⟨_, hk, rfl⟩ := h
    obtain ⟨k, hk, hcast⟩ := Option.bind_eq_some_iff.mp hk
    obtain ⟨hdigits, rfl⟩ := Digits.value?_eq_some_iff.mp hk
    obtain rfl := Option.some.inj hcast
    unfold sign at hdigits ⊢
    split at hdigits
    · exact .minus hdigits
    · exact .plus hdigits
    · exact .plain hdigits
  · intro h
    cases h with
    | plain h => simp [readInt?, (sign_of_isDigits h).1, Digits.value?_eq_some_iff.mpr ⟨h, rfl⟩]
    | plus h => simp [readInt?, sign, Digits.value?_eq_some_iff.mpr ⟨h, rfl⟩]
    | minus h => simp [readInt?, sign, Digits.value?_eq_some_iff.mpr ⟨h, rfl⟩]

theorem readNat?_eq_some_iff {k : Nat} : readNat? cs = some k ↔ IntNumeral cs k ∧ cs.head? ≠ some '-' := by
  constructor
  · intro h
    unfold readNat? at h
    split at h
    · obtain ⟨hdigits, rfl⟩ := Digits.value?_eq_some_iff.mp h
      exact ⟨.plus hdigits, by simp⟩
    · obtain ⟨hdigits, rfl⟩ := Digits.value?_eq_some_iff.mp h
      exact ⟨.plain hdigits, (sign_of_isDigits hdigits).2.1⟩
  · rintro ⟨h, hminus⟩
    generalize hi : (k : Int) = i at h
    cases h with
    | plain h =>
      obtain rfl := Int.ofNat_inj.mp hi
      unfold readNat?
      split
      · exact absurd rfl (sign_of_isDigits h).2.2
      · exact Digits.value?_eq_some_iff.mpr ⟨h, rfl⟩
    | plus h =>
      obtain rfl := Int.ofNat_inj.mp hi
      exact Digits.value?_eq_some_iff.mpr ⟨h, rfl⟩
    | minus h => exact absurd rfl hminus

end Decimal

/-- A numeral spells one integer. -/
theorem IntNumeral.unique {cs : List Char} {n m : Int} (hn : IntNumeral cs n) (hm : IntNumeral cs m) : n = m :=
  Option.some.inj ((Decimal.readInt?_eq_some_iff.mpr hn).symm.trans (Decimal.readInt?_eq_some_iff.mpr hm))

end ExprLang
