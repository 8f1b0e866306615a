import ExprLang.Proofs.Number.Truncate

/-!
# Numbers cut toward zero

The whole part of a double is its number cut toward zero (`wholeInt_eq_cut`). A cut number is bounded by an integer as
the number itself is, up to the part that is cut off: `cut_lt_iff` and `le_cut_iff`. Among doubles that part is none as
soon as they lie beyond `2 ^ 53` (`toRat_eq_cut_of_lt`).
-/

namespace ExprLang

/-- The integer that is left of a number when it is cut toward zero. -/
def cut (q : ℚ) : ℤ := if 0 ≤ q then ⌊q⌋ else ⌈q⌉

section Cut

variable {q : ℚ} {i : ℤ}

theorem cut_of_nonneg (h : 0 ≤ q) : cut q = ⌊q⌋ := if_pos h

theorem cut_of_nonpos (h : q ≤ 0) : cut q = ⌈q⌉ := by
  rcases h.lt_or_eq with hneg | rfl
  · exact if_neg (not_le.mpr hneg)
  · simp [cut]

@[simp] theorem cut_intCast (n : ℤ) : cut n = n := by
  simp [cut]

@[simp] theorem cut_natCast (n : ℕ) : cut n = n := cut_intCast n

/-- What is cut lies below a positive integer when the number does. -/
theorem cut_lt_iff (hi : 0 < i) : cut q < i ↔ q < i := by
  rcases le_total 0 q with hq | hq
  · rw [cut_of_nonneg hq, Int.floor_lt]
  · have hpos : (0 : ℚ) < i := by exact_mod_cast hi
    have hceil : ⌈q⌉ ≤ 0 := Int.ceil_le.mpr (by simpa using hq)
    rw [cut_of_nonpos hq]
    exact iff_of_true (hceil.trans_lt hi) (hq.trans_lt hpos)

/-- What is cut reaches an integer that is not positive when the number lies less than one below it. -/
theorem le_cut_iff (hi : i ≤ 0) : i ≤ cut q ↔ (i : ℚ) - 1 < q := by
  rcases le_total 0 q with hq | hq
  · have hneg : (i : ℚ) - 1 < 0 := by
      have : (i : ℚ) ≤ 0 := by exact_mod_cast hi
      linarith
    rw [cut_of_nonneg hq]
    exact iff_of_true (hi.trans (Int.floor_nonneg.mpr hq)) (hneg.trans_le hq)
  · rw [cut_of_nonpos hq, ← Int.sub_one_lt_iff, Int.lt_ceil]
    push_cast
    rfl

end Cut

namespace Binary64

variable {s : Bool} {m : Nat} {e i : Int}

/-- The whole part of a double is its number cut toward zero. -/
theorem wholeInt_eq_cut (s : Bool) (m : Nat) (e : Int) : wholeInt s m e = cut (toRat s m e) := by
  have hp : (0 : ℚ) ≤ m * 2 ^ e := by positivity
  have hwhole : (whole m e : ℤ) = ⌊(m * 2 ^ e : ℚ)⌋ := by
    rw [whole_eq_floor]
    exact Int.natCast_floor_eq_floor hp
  cases s with
  | false => exact hwhole.trans (cut_of_nonneg hp).symm
  | true =>
    have hneg : cut (toRat true m e) = ⌈-(m * 2 ^ e : ℚ)⌉ := cut_of_nonpos (neg_nonpos.mpr hp)
    rw [hneg, Int.ceil_neg, ← hwhole]
    rfl

/-- A double below `-2 ^ 53` is an integer: its mantissa has no room for a part to cut off. -/
theorem toRat_eq_cut_of_lt (h : IsMagnitude m e) (hlt : toRat s m e < -2 ^ 53) : toRat s m e = cut (toRat s m e) := by
  have hw : exponentWeight = 2 ^ 52 := rfl
  have he : 0 ≤ e := by
    by_contra hneg
    have hm : (m : ℚ) < 2 ^ 53 := by
      have : m < 2 ^ 53 := by
        have := h.1
        omega
      exact_mod_cast this
    have hpow : (2 : ℚ) ^ e ≤ 1 := zpow_le_one_of_nonpos₀ (by norm_num) (by omega)
    have hle : (m * 2 ^ e : ℚ) ≤ m := mul_le_of_le_one_right (Nat.cast_nonneg m) hpow
    have hnonneg : (0 : ℚ) ≤ m * 2 ^ e := by positivity
    unfold toRat at hlt
    split at hlt <;> linarith
  obtain ⟨k, rfl⟩ := Int.eq_ofNat_of_zero_le he
  have hint : toRat s m k = ((if s then -(m * 2 ^ k : ℕ) else (m * 2 ^ k : ℕ) : ℤ) : ℚ) := by
    unfold toRat
    cases s <;> simp
  rw [hint, cut_intCast]

/-- Below `-2 ^ 53` a double lies on the same side of an integer as what is left of it. -/
theorem cut_toRat_lt_iff (h : IsMagnitude m e) (hi : i ≤ -2 ^ 53) : cut (toRat s m e) < i ↔ toRat s m e < i := by
  constructor
  · intro hlt
    have hle := mt (le_cut_iff (by omega)).mpr (not_le.mpr hlt)
    linarith
  · intro hlt
    have hi' : (i : ℚ) ≤ -2 ^ 53 := by exact_mod_cast hi
    rwa [toRat_eq_cut_of_lt h (hlt.trans_le hi'), Int.cast_lt] at hlt

end Binary64

end ExprLang
