import Mathlib.Algebra.Order.Field.Power
import Mathlib.Data.Int.Log
import Mathlib.Data.Rat.Floor
import Mathlib.Tactic.FieldSimp
import Mathlib.Tactic.Linarith
import Mathlib.Tactic.NormNum
import Mathlib.Tactic.Ring
import ExprLang.Number.Binary64

/-!
# Rounding fractions to doubles

The rounding of a fraction to a double depends on its value only, not on the two numbers that it is given by
(`roundRatio_congr`), and a fraction that is the magnitude of a double is rounded to this double (`roundRatio_exact`).
Both rest on `floorLog2_eq_log`: the exponent of a fraction is the integer logarithm of its value.
-/

namespace ExprLang

variable {b : Nat}

theorem scale_pos (hb : 0 < b) {n : Nat} (hn : 0 < n) (e : Int) : 0 < scale b n e :=
  Nat.mul_pos hn (Nat.pow_pos hb)

/-- Scaling the two parts of a fraction divides it by a power of the base. -/
theorem scale_div_scale (hb : 0 < b) (n m : Nat) (e : Int) :
    (scale b n (-e) : ℚ) / scale b m e = n / m / (b : ℚ) ^ e := by
  have hb' : (b : ℚ) ≠ 0 := by positivity
  have cast (k : Nat) (f : Int) : (scale b k f : ℚ) = k * (b : ℚ) ^ f.toNat := by
    have : scale b k f = k * b ^ f.toNat := rfl
    rw [this]
    push_cast
    rfl
  rw [cast, cast]
  rcases Int.le_total 0 e with he | he
  · obtain ⟨k, rfl⟩ := Int.eq_ofNat_of_zero_le he
    simp [div_div]
  · obtain ⟨k, hk⟩ := Int.eq_ofNat_of_zero_le (Int.neg_nonneg.mpr he)
    obtain rfl : e = -k := by omega
    simp
    ring

namespace Binary64

variable {num den num' den' n d n' d' m : Nat} {e : Int}

/-! ### Logarithms -/

private theorem zpow_log2_le (hn : 0 < n) : (2 : ℚ) ^ (n.log2 : Int) ≤ n ∧ (n : ℚ) < 2 ^ (n.log2 + 1 : Int) := by
  constructor
  · rw [zpow_natCast]
    exact_mod_cast Nat.log2_self_le (by omega)
  · have h : (n : ℚ) < 2 ^ (n.log2 + 1) := by exact_mod_cast Nat.lt_log2_self
    rwa [← zpow_natCast, Nat.cast_add, Nat.cast_one] at h

private theorem log_unique {x : ℚ} (hx : 0 < x) (h₁ : (2 : ℚ) ^ e ≤ x) (h₂ : x < 2 ^ (e + 1)) : e = Int.log 2 x := by
  have := (Int.zpow_le_iff_le_log (by decide : 1 < 2) hx).mp (by exact_mod_cast h₁)
  have := (Int.lt_zpow_iff_log_lt (by decide : 1 < 2) hx).mp (by exact_mod_cast h₂)
  omega

/-- The logarithms of the two parts leave two candidates for the logarithm of a fraction. -/
private theorem log2_sub_log2 (hn : 0 < num) (hd : 0 < den) :
    (2 : ℚ) ^ ((num.log2 - den.log2 : Int) - 1) < num / den ∧
      (num / den : ℚ) < 2 ^ ((num.log2 - den.log2 : Int) + 1) := by
  have hd' : (0 : ℚ) < den := by exact_mod_cast hd
  obtain ⟨hnum₁, hnum₂⟩ := zpow_log2_le hn
  obtain ⟨hden₁, hden₂⟩ := zpow_log2_le hd
  constructor
  · rw [lt_div_iff₀ hd']
    calc (2 : ℚ) ^ ((num.log2 - den.log2 : Int) - 1) * den
        < 2 ^ ((num.log2 - den.log2 : Int) - 1) * 2 ^ (den.log2 + 1 : Int) := by gcongr
      _ = 2 ^ (num.log2 : Int) := by
        rw [← zpow_add₀ (by norm_num)]
        congr 1
        omega
      _ ≤ num := hnum₁
  · rw [div_lt_iff₀ hd']
    calc (num : ℚ) < 2 ^ (num.log2 + 1 : Int) := hnum₂
      _ = 2 ^ ((num.log2 - den.log2 : Int) + 1) * 2 ^ (den.log2 : Int) := by
        rw [← zpow_add₀ (by norm_num)]
        congr 1
        omega
      _ ≤ 2 ^ ((num.log2 - den.log2 : Int) + 1) * den := by gcongr

theorem floorLog2_eq_log (hn : 0 < num) (hd : 0 < den) : floorLog2 num den = Int.log 2 (num / den : ℚ) := by
  have hpos : (0 : ℚ) < num / den := by positivity
  obtain ⟨hlow, hhigh⟩ := log2_sub_log2 hn hd
  unfold floorLog2
  dsimp only
  generalize (num.log2 - den.log2 : Int) = e at *
  have htest : scale 2 num (-e) < scale 2 den e ↔ (num / den : ℚ) < 2 ^ e := by
    have hs := scale_div_scale (by decide : 0 < 2) num den e
    have hp : (0 : ℚ) < scale 2 den e := by exact_mod_cast scale_pos (by decide) hd e
    rw [← Nat.cast_lt (α := ℚ), ← div_lt_one hp, hs, div_lt_one (by positivity)]
    rfl
  split
  · rename_i hlt
    refine log_unique hpos hlow.le ?_
    rw [Int.sub_add_cancel]
    exact htest.mp hlt
  · rename_i hle
    exact log_unique hpos (not_lt.mp (mt htest.mpr hle)) hhigh

/-! ### Roundings -/

private theorem roundQuotient_mul {c : Nat} (hc : 0 < c) (n d : Nat) :
    roundQuotient (c * n) (c * d) = roundQuotient n d := by
  have h₁ : 2 * (c * (n % d)) < c * d ↔ 2 * (n % d) < d := by
    rw [Nat.mul_left_comm, Nat.mul_lt_mul_left hc]
  have h₂ : c * d < 2 * (c * (n % d)) ↔ d < 2 * (n % d) := by
    rw [Nat.mul_left_comm, Nat.mul_lt_mul_left hc]
  simp only [roundQuotient, Nat.mul_mod_mul_left, Nat.mul_div_mul_left _ _ hc, h₁, h₂]

private theorem roundQuotient_congr (hd : 0 < d) (hd' : 0 < d') (h : (n / d : ℚ) = n' / d') :
    roundQuotient n d = roundQuotient n' d' := by
  have hq : (d : ℚ) ≠ 0 := by positivity
  have hq' : (d' : ℚ) ≠ 0 := by positivity
  have hcross : n * d' = n' * d := by
    rw [div_eq_div_iff hq hq'] at h
    exact_mod_cast h
  rw [← roundQuotient_mul hd' n d, ← roundQuotient_mul hd n' d', Nat.mul_comm d' n, hcross, Nat.mul_comm d' d,
    Nat.mul_comm n' d]

theorem roundRatio_le (num den : Nat) : roundRatio num den ≤ infinityBits := by
  unfold roundRatio
  split
  · exact Nat.zero_le _
  · exact Nat.min_le_right _ _

/-- The rounding of a fraction depends on its value only. -/
theorem roundRatio_congr (hd : 0 < den) (hd' : 0 < den') (h : (num / den : ℚ) = num' / den') :
    roundRatio num den = roundRatio num' den' := by
  have hq : (0 : ℚ) < den := by exact_mod_cast hd
  have hq' : (0 : ℚ) < den' := by exact_mod_cast hd'
  have hzero : num = 0 ↔ num' = 0 := by
    have h₁ : (num / den : ℚ) = 0 ↔ num = 0 := by simp [hq.ne']
    have h₂ : (num' / den' : ℚ) = 0 ↔ num' = 0 := by simp [hq'.ne']
    rw [← h₁, h, h₂]
  unfold roundRatio
  by_cases hn : num = 0
  · rw [if_pos hn, if_pos (hzero.mp hn)]
  · have hn' : num' ≠ 0 := mt hzero.mpr hn
    rw [if_neg hn, if_neg hn', floorLog2_eq_log (by omega) hd, floorLog2_eq_log (by omega) hd', h]
    generalize max (Int.log 2 (num' / den' : ℚ) - 52) (-1074) = q
    have hround : roundQuotient (scale 2 num (-q)) (scale 2 den q) =
        roundQuotient (scale 2 num' (-q)) (scale 2 den' q) := by
      refine roundQuotient_congr (scale_pos (by decide) hd q) (scale_pos (by decide) hd' q) ?_
      rw [scale_div_scale (by decide), scale_div_scale (by decide), h]
    dsimp only
    rw [hround]

/-- The mantissa and exponent of a double: a fraction of the least weight, or a mantissa with its leading bit. -/
def IsMagnitude (m : Nat) (e : Int) : Prop :=
  m < 2 * exponentWeight ∧ -1074 ≤ e ∧ e ≤ 971 ∧ (e = -1074 ∨ exponentWeight ≤ m)

/-- The magnitude bits of the double `m * 2 ^ e`. -/
def magnitudeBits (m : Nat) (e : Int) : Nat := (e + 1074).toNat * exponentWeight + m

private theorem log_mul_zpow (hm : 0 < m) (e : Int) : Int.log 2 (m * (2 : ℚ) ^ e) = m.log2 + e := by
  obtain ⟨h₁, h₂⟩ := zpow_log2_le hm
  have hp : (0 : ℚ) < 2 ^ e := by positivity
  refine (log_unique (by positivity) ?_ ?_).symm
  · rw [zpow_add₀ (by norm_num)]
    gcongr
  · rw [add_right_comm, zpow_add₀ (by norm_num)]
    gcongr

/-- A double is its own rounding. -/
theorem roundRatio_exact (hm : 0 < m) (h : IsMagnitude m e) (hd : 0 < den)
    (hq : (num / den : ℚ) = m * (2 : ℚ) ^ e) : roundRatio num den = magnitudeBits m e := by
  obtain ⟨hmax, hmin, hmax', hcanonical⟩ := h
  have hw : exponentWeight = 2 ^ 52 := rfl
  have hn : num ≠ 0 := by
    rintro rfl
    have hp : (0 : ℚ) < m * 2 ^ e := by positivity
    rw [← hq] at hp
    simp at hp
  -- the exponent of the rounding is that of the double, whether its mantissa has the leading bit or not
  have hexp : max (floorLog2 num den - 52) (-1074) = e := by
    rw [floorLog2_eq_log (by omega) hd, hq, log_mul_zpow hm]
    have hlog : m.log2 < 53 := (Nat.log2_lt (by omega)).mpr (by omega)
    rcases hcanonical with rfl | hlead
    · omega
    · have : 52 ≤ m.log2 := (Nat.le_log2 (by omega)).mpr (by omega)
      omega
  have hround : roundQuotient (scale 2 num (-e)) (scale 2 den e) = m := by
    rw [← roundQuotient_congr (n := m) (d := 1) (by decide) (scale_pos (by decide) hd e)]
    · simp [roundQuotient, Nat.mod_one]
    · have : (2 : ℚ) ^ e ≠ 0 := by positivity
      rw [scale_div_scale (by decide), hq]
      push_cast
      field_simp
  have hlt : (e + 1074).toNat * exponentWeight + m ≤ infinityBits := by
    have : (e + 1074).toNat ≤ 2045 := by omega
    have := Nat.mul_le_mul_right exponentWeight this
    unfold infinityBits
    omega
  rw [roundRatio, if_neg hn]
  dsimp only
  rw [hexp, hround, Nat.min_eq_left hlt, magnitudeBits]

end Binary64

end ExprLang
