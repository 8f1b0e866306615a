import ExprLang.Proofs.Number.Rounding
import ExprLang.Number.Shortest

/-!
# Decimals and doubles

Which double a decimal is rounded to depends on its value only (`toBits_congr`), and a decimal that is a double is
rounded to this double (`toBits_exact`), so the decimal that `shortest` finds is rounded to the double that it was found
for (`toBits_shortest`): either it was tried, or it is the exact expansion.
-/

namespace ExprLang.Decimal

open Binary64

variable {d d' : Decimal} {m n : Nat} {e : Int}

/-- The number that a decimal is. -/
def toRat (d : Decimal) : ℚ := d.digits * (10 : ℚ) ^ d.exponent

private theorem count_eq_log (hn : n ≠ 0) : Digits.count n = Nat.log 10 n + 1 := by
  have hiff {k : Nat} (hk : 0 < k) : Digits.count n ≤ k ↔ Nat.log 10 n < k := by
    rw [Digits.count, Nat.length_toDigits_le_iff (by decide) hk, ← Nat.log_lt_iff_lt_pow (by decide) hn]
  have hpos : 0 < Digits.count n := Nat.length_toDigits_pos
  have h₁ := (hiff hpos).mp (Nat.le_refl _)
  have h₂ := (hiff (Nat.succ_pos (Nat.log 10 n))).mpr (Nat.lt_succ_self _)
  omega

private theorem log_mul_zpow {x : ℚ} (hx : 0 < x) (e : Int) : Int.log 10 (x * (10 : ℚ) ^ e) = Int.log 10 x + e := by
  have hp : (0 : ℚ) < 10 ^ e := by positivity
  have hle (k : Int) : k + e ≤ Int.log 10 (x * (10 : ℚ) ^ e) ↔ k ≤ Int.log 10 x := by
    rw [← Int.zpow_le_iff_le_log (by decide) (by positivity), ← Int.zpow_le_iff_le_log (by decide) hx]
    push_cast
    rw [zpow_add₀ (by norm_num), mul_le_mul_iff_left₀ hp]
  have h₁ := (hle _).mpr (le_refl (Int.log 10 x))
  have h₂ := (hle (Int.log 10 (x * (10 : ℚ) ^ e) - e)).mp (by omega)
  omega

/-- The exponent of the first digit is the logarithm of the decimal. -/
theorem log_toRat (h : d.digits ≠ 0) : Int.log 10 d.toRat = d.exponent + Digits.count d.digits - 1 := by
  have hpos : (0 : ℚ) < d.digits := by exact_mod_cast Nat.pos_of_ne_zero h
  rw [toRat, log_mul_zpow hpos, Int.log_natCast, count_eq_log h]
  omega

private theorem toRat_eq_zero_iff : d.toRat = 0 ↔ d.digits = 0 := by
  have : (10 : ℚ) ^ d.exponent ≠ 0 := by positivity
  simp [toRat, this]

/-- The fraction that a decimal is rounded as. -/
private theorem scale_div (d : Decimal) :
    (scale 10 d.digits d.exponent / scale 10 1 (-d.exponent) : ℚ) = d.toRat := by
  have h := scale_div_scale (by decide : 0 < 10) d.digits 1 (-d.exponent)
  rw [Int.neg_neg] at h
  rw [h, toRat]
  simp

theorem toBits_le (d : Decimal) : d.toBits ≤ Binary64.infinityBits := by
  unfold toBits
  dsimp only
  split
  · exact Nat.zero_le _
  · split
    · exact le_rfl
    · split
      · exact Nat.zero_le _
      · exact Binary64.roundRatio_le _ _

/-- Which double a decimal is rounded to depends on its value only. -/
theorem toBits_congr (h : d.toRat = d'.toRat) : d.toBits = d'.toBits := by
  have hzero : d.digits = 0 ↔ d'.digits = 0 := by
    rw [← toRat_eq_zero_iff, h, toRat_eq_zero_iff]
  unfold toBits
  by_cases hd : d.digits = 0
  · rw [if_pos hd, if_pos (hzero.mp hd)]
  · have hd' : d'.digits ≠ 0 := mt hzero.mpr hd
    have htop : d.exponent + Digits.count d.digits = d'.exponent + Digits.count d'.digits := by
      have h₁ := log_toRat hd
      have h₂ := log_toRat hd'
      rw [h] at h₁
      omega
    have hround : roundRatio (scale 10 d.digits d.exponent) (scale 10 1 (-d.exponent)) =
        roundRatio (scale 10 d'.digits d'.exponent) (scale 10 1 (-d'.exponent)) := by
      refine roundRatio_congr (scale_pos (by decide) (by decide) _) (scale_pos (by decide) (by decide) _) ?_
      rw [scale_div, scale_div, h]
    rw [if_neg hd, if_neg hd', htop, hround]

private theorem greatest_bound : 2 ^ 1024 < 10 ^ 309 := by decide +kernel

private theorem least_bound : 2 ^ 1074 < 10 ^ 324 := by decide +kernel

/-- A decimal that is a double is rounded to it. -/
theorem toBits_exact (hm : 0 < m) (h : IsMagnitude m e) (hd : d.toRat = m * (2 : ℚ) ^ e) :
    d.toBits = magnitudeBits m e := by
  obtain ⟨hmax, hmin, hmax', _⟩ := id h
  have hpos : (0 : ℚ) < d.toRat := by
    rw [hd]
    positivity
  have hdigits : d.digits ≠ 0 := mt toRat_eq_zero_iff.mpr hpos.ne'
  have hhigh : Int.log 10 d.toRat < 309 := by
    rw [← Int.lt_zpow_iff_log_lt (by decide) hpos, hd]
    have hm' : (m : ℚ) < 2 ^ (53 : Int) := by exact_mod_cast hmax
    calc (m : ℚ) * 2 ^ e ≤ m * 2 ^ (971 : Int) := by gcongr; norm_num
      _ < 2 ^ (53 : Int) * 2 ^ (971 : Int) := by gcongr
      _ = 2 ^ (1024 : Int) := by rw [← zpow_add₀ (by norm_num)]; rfl
      _ < ((10 : Nat) : ℚ) ^ (309 : Int) := by exact_mod_cast greatest_bound
  have hlow : -324 ≤ Int.log 10 d.toRat := by
    rw [← Int.zpow_le_iff_le_log (by decide) hpos, hd]
    have hm' : (1 : ℚ) ≤ m := by exact_mod_cast hm
    calc (((10 : Nat) : ℚ) ^ (-324 : Int)) ≤ 2 ^ (-1074 : Int) := by
          rw [zpow_neg, zpow_neg]
          exact inv_anti₀ (by positivity) (by exact_mod_cast least_bound.le)
      _ = 1 * 2 ^ (-1074 : Int) := (one_mul _).symm
      _ ≤ m * 2 ^ e := by gcongr; norm_num
  -- so neither of the shortcuts for huge and tiny decimals is taken
  rw [log_toRat hdigits] at hhigh hlow
  unfold toBits
  dsimp only
  rw [if_neg hdigits, if_neg (by omega), if_neg (by omega)]
  exact roundRatio_exact hm h (scale_pos (by decide) (by decide) _) ((scale_div d).trans hd)

private theorem toRat_expansion (m : Nat) (e : Int) : (expansion m e).toRat = m * (2 : ℚ) ^ e := by
  unfold expansion
  split
  · rename_i he
    obtain ⟨k, rfl⟩ := Int.eq_ofNat_of_zero_le he
    have : scale 2 m k = m * 2 ^ k := rfl
    simp [toRat, this]
  · rename_i he
    obtain ⟨k, hk⟩ := Int.eq_ofNat_of_zero_le (by omega : 0 ≤ -e)
    obtain rfl : e = -k := by omega
    have : scale 5 m k = m * 5 ^ k := rfl
    have h10 : (10 : ℚ) ^ k = 5 ^ k * 2 ^ k := by
      rw [← mul_pow]
      norm_num
    simp only [toRat, Int.neg_neg, this, zpow_neg, zpow_natCast, h10]
    push_cast
    field_simp

/-- The decimal that is found for a double is rounded to it. -/
theorem toBits_shortest (hm : 0 < m) (h : IsMagnitude m e) :
    (shortest m e (magnitudeBits m e)).toBits = magnitudeBits m e := by
  unfold shortest
  dsimp only
  cases hs : (List.range 17).findSome? fun n =>
      withDigits? (scale 2 m e) (scale 2 1 (-e)) (magnitudeBits m e) (n + 1) with
  | none => exact toBits_exact hm h (toRat_expansion m e)
  | some d =>
    obtain ⟨k, _, hk⟩ := List.exists_of_findSome?_eq_some hs
    unfold withDigits? at hk
    dsimp only at hk
    split at hk
    · rename_i hnear
      exact Option.some.inj hk ▸ hnear
    · split at hk
      · rename_i hfar
        exact Option.some.inj hk ▸ hfar
      · nomatch hk

end ExprLang.Decimal
