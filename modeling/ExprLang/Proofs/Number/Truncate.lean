import ExprLang.Proofs.Number.Order

/-!
# Doubles cut to whole numbers

The whole part of a finite double is a double again, and is subtracted from it without rounding (`exists_truncate`):
both have the same exponent, unless the whole part is zero, and their mantissas leave no more digits than a mantissa
has. The casts to integers give the whole part where they have room for it (`toInt64_truncate`, `toUInt64_truncate`).
-/

namespace ExprLang.Binary64

open Float.Model UnpackedFloat

variable {m n : Nat} {e : Int} {s : Bool} {f g : Float}

/-! ### Subtraction -/

private theorem log2_shiftLeft (hm : 0 < m) (k : Nat) : (m <<< k).log2 = m.log2 + k := by
  induction k with
  | zero => rfl
  | succ k ih =>
    have hpos : m <<< k ≠ 0 := by
      rw [Nat.shiftLeft_eq]
      positivity
    rw [Nat.shiftLeft_succ, Nat.log2_two_mul hpos, ih, Nat.add_assoc]

/-- The exponent of a double is the one to which its mantissa is shifted. -/
private theorem targetExponent_eq (hm : 0 < m) (h : IsMagnitude m e) :
    Format.binary64.targetExponent (Float.Model.totalExponent m e) = e := by
  have hw : exponentWeight = 2 ^ 52 := rfl
  obtain ⟨hmax, hmin, _, hcanonical⟩ := h
  have hlog : m.log2 < 53 := (Nat.log2_lt (by omega)).mpr (by omega)
  have hlead : e = -1074 ∨ 52 ≤ m.log2 := hcanonical.imp_right fun h => (Nat.le_log2 (by omega)).mpr (by omega)
  show max ((m.log2 : Int) + 1 + e - 53) (-1074) = e
  omega

private theorem shiftToTargetExponent_eq (hm : 0 < m) (h : IsMagnitude m e) :
    UnpackedFloat.shiftToTargetExponent Format.binary64 m e .exact = (⟨m, false, false⟩, e) := by
  unfold UnpackedFloat.shiftToTargetExponent UnpackedFloat.shiftToExponent
  dsimp only
  rw [targetExponent_eq hm h, Int.sub_self]
  exact Prod.ext rfl (Int.add_zero e)

private theorem roundWithAccuracy_eq (hm : 0 < m) (h : IsMagnitude m e) (s : Bool) :
    UnpackedFloat.roundWithAccuracy Format.binary64 (unpackedSign s) m e .exact =
      (Binary64.finite s m e).unpacked := by
  have hshift := shiftToTargetExponent_eq hm h
  have hrounded : (⟨m, false, false⟩ : ExtendedMantissa).roundedMantissa = m := rfl
  unfold UnpackedFloat.roundWithAccuracy
  simp only [hshift, hrounded, hm.ne', dite_false, unpacked, hm, dite_true]

/-- A magnitude with no more digits than a mantissa has is not changed by rounding. -/
private theorem round_eq (hm : 0 < m) (hmax : m < 2 * exponentWeight) (hmin : -1074 ≤ e) (hmax' : e ≤ 971)
    (s : Bool) :
    ∃ n k, IsMagnitude n k ∧ (n * 2 ^ k : ℚ) = m * 2 ^ e ∧
      UnpackedFloat.round Format.binary64 (unpackedSign s) m e = (Binary64.finite s n k).unpacked := by
  have hw : exponentWeight = 2 ^ 52 := rfl
  have hlog : m.log2 < 53 := (Nat.log2_lt (by omega)).mpr (by omega)
  obtain ⟨k, hk⟩ : ∃ k, k = Format.binary64.targetExponent (Float.Model.totalExponent m e) := ⟨_, rfl⟩
  have hk' : k = max ((m.log2 : Int) + 1 + e - 53) (-1074) := hk
  obtain ⟨j, hj⟩ : ∃ j : Nat, (e - k).toNat = j := ⟨_, rfl⟩
  have hlogn : (m <<< j).log2 = m.log2 + j := log2_shiftLeft hm j
  have hn : 0 < m <<< j := by
    rw [Nat.shiftLeft_eq]
    positivity
  have hmagnitude : IsMagnitude (m <<< j) k := by
    refine ⟨?_, by omega, by omega, ?_⟩
    · have := (Nat.log2_lt (by omega : m <<< j ≠ 0)).mp (by omega : (m <<< j).log2 < 53)
      omega
    · by_cases hleast : k = -1074
      · exact .inl hleast
      · have : 52 ≤ (m <<< j).log2 := by omega
        exact .inr ((Nat.le_log2 (by omega)).mp this)
  refine ⟨m <<< j, k, hmagnitude, ?_, ?_⟩
  · have he : e = j + k := by omega
    rw [he, zpow_add₀ (by norm_num), zpow_natCast, Nat.shiftLeft_eq]
    push_cast
    ring
  · have hsub : e - (j : Int) = k := by omega
    rw [← roundWithAccuracy_eq hn hmagnitude s]
    unfold UnpackedFloat.round UnpackedFloat.decreaseExponent
    dsimp only
    rw [← hk, hj, hsub]

private theorem normalize_apply (hm : 0 < m) (s t : Bool) :
    UnpackedFloat.normalize Format.binary64 ((unpackedSign s).apply m) e (unpackedSign t) =
      UnpackedFloat.round Format.binary64 (unpackedSign s) m e := by
  unfold UnpackedFloat.normalize
  cases s with
  | false =>
    have hgt : compare ((unpackedSign false).apply m) 0 = .gt := compare_gt_iff_gt.mpr (Int.natCast_pos.mpr hm)
    rw [hgt]
    rfl
  | true =>
    have hlt : compare ((unpackedSign true).apply m) 0 = .lt :=
      compare_lt_iff_lt.mpr (Int.neg_neg_of_pos (Int.natCast_pos.mpr hm))
    have htoNat : (-(unpackedSign true).apply m).toNat = m := congrArg Int.toNat (Int.neg_neg (m : Int))
    rw [hlt]
    dsimp only
    rw [htoNat]
    rfl

private theorem decreaseExponent_self (m : Nat) (e : Int) : UnpackedFloat.decreaseExponent m e e = (m, e) := by
  unfold UnpackedFloat.decreaseExponent
  rw [Int.sub_self]
  exact Prod.ext rfl (Int.sub_zero e)

private theorem apply_sub (hn : n ≤ m) (s : Bool) :
    (unpackedSign s).apply m - (unpackedSign s).apply n = (unpackedSign s).apply (m - n : Nat) := by
  rw [Int.ofNat_sub hn]
  cases s with
  | false => rfl
  | true =>
    show -(m : Int) - -(n : Int) = -((m : Int) - n)
    omega

/-- Doubles of one sign and exponent are subtracted without rounding. -/
private theorem sub_unpacked (hm : IsMagnitude m e) (hn : n ≤ m) (hpos : 0 < n) (s : Bool) :
    ∃ t d k, IsMagnitude d k ∧ toRat t d k = toRat s m e - toRat s n e ∧
      UnpackedFloat.sub Format.binary64 (Binary64.finite s m e).unpacked (Binary64.finite s n e).unpacked =
        (Binary64.finite t d k).unpacked := by
  have hsub : UnpackedFloat.sub Format.binary64 (Binary64.finite s m e).unpacked (Binary64.finite s n e).unpacked =
      UnpackedFloat.normalize Format.binary64 ((unpackedSign s).apply (m - n : Nat)) e (unpackedSign false) := by
    rw [unpacked_pos s (by omega), unpacked_pos s hpos]
    unfold UnpackedFloat.sub
    dsimp only
    rw [Int.min_self, decreaseExponent_self, decreaseExponent_self]
    dsimp only
    rw [apply_sub hn]
    rfl
  have hrat : toRat s m e - toRat s n e = toRat s (m - n) e := by
    unfold toRat
    push_cast [hn]
    cases s <;> simp <;> ring
  rw [hsub, hrat]
  obtain ⟨hmax, hmin, hmax', _⟩ := hm
  rcases Nat.eq_zero_or_pos (m - n) with hd | hd
  · rw [hd]
    refine ⟨false, 0, -1074, ⟨by decide, by decide, by decide, .inl rfl⟩, ?_, ?_⟩
    · rw [toRat_zero, toRat_zero]
    · cases s <;> rfl
  · obtain ⟨d, k, hmagnitude, hvalue, hround⟩ := round_eq hd (by omega) hmin hmax' s
    refine ⟨s, d, k, hmagnitude, ?_, ?_⟩
    · rw [toRat, toRat, hvalue]
    · rw [normalize_apply hd, hround]

private theorem toBitVec_sub (f g : Float) : (f - g).toBits.toBitVec =
    UnpackedFloat.pack Format.binary64 (UnpackedFloat.sub Format.binary64 f.toModel.unpack g.toModel.unpack) := rfl

/-! ### Whole parts -/

theorem whole_eq_floor (m : Nat) (e : Int) : whole m e = ⌊(m * 2 ^ e : ℚ)⌋₊ := by
  have hscale := scale_div_scale (by decide : 0 < 2) m 1 (-e)
  rw [Int.neg_neg] at hscale
  have hvalue : (m * 2 ^ e : ℚ) = (scale 2 m e : ℚ) / scale 2 1 (-e) := by
    rw [hscale]
    simp
  rw [hvalue, Nat.floor_div_eq_div, whole]

/-- The whole part of a magnitude, if it is not zero, is a magnitude of the same exponent. -/
private theorem exists_whole (h : IsMagnitude m e) (hpos : 0 < whole m e) :
    ∃ n ≤ m, IsMagnitude n e ∧ (n * 2 ^ e : ℚ) = whole m e := by
  have hw : exponentWeight = 2 ^ 52 := rfl
  obtain ⟨hmax, hmin, hmax', hcanonical⟩ := id h
  rcases Int.le_total 0 e with he | he
  · obtain ⟨k, rfl⟩ := Int.eq_ofNat_of_zero_le he
    refine ⟨m, le_rfl, h, ?_⟩
    rw [whole_eq_floor, zpow_natCast]
    norm_cast
  · obtain ⟨k, hk⟩ := Int.eq_ofNat_of_zero_le (Int.neg_nonneg.mpr he)
    obtain rfl : e = -k := by omega
    have hwhole : whole m (-k) = m / 2 ^ k := by simp [whole, scale]
    rw [hwhole] at hpos ⊢
    have hle : m / 2 ^ k * 2 ^ k ≤ m := Nat.div_mul_le_self m _
    -- the leading bit belongs to the whole part
    have hk : k ≤ 52 := by
      by_contra hlt
      have := Nat.pow_le_pow_right (by decide : 0 < 2) (by omega : 53 ≤ k)
      have := (Nat.div_pos_iff.mp hpos).2
      omega
    have hsplit : 2 ^ (52 - k) * 2 ^ k = 2 ^ 52 := by
      rw [← pow_add]
      congr 1
      omega
    have hquotient : 2 ^ (52 - k) ≤ m / 2 ^ k := by
      rw [Nat.le_div_iff_mul_le (by positivity)]
      omega
    have hlead : exponentWeight ≤ m / 2 ^ k * 2 ^ k := by
      rw [hw, ← hsplit]
      exact Nat.mul_le_mul_right _ hquotient
    refine ⟨m / 2 ^ k * 2 ^ k, hle, ⟨by omega, hmin, hmax', .inr hlead⟩, ?_⟩
    rw [zpow_neg, zpow_natCast]
    push_cast
    field_simp

/-- The whole part of a number with a sign. -/
def wholeInt (negative : Bool) (m : Nat) (e : Int) : Int := if negative then -whole m e else whole m e

private theorem wholeInt_of_nonneg (h : 0 ≤ toRat s m e) :
    0 ≤ wholeInt s m e ∧ wholeInt s m e ≤ toRat s m e ∧ toRat s m e < wholeInt s m e + 1 := by
  have hp : (0 : ℚ) ≤ m * 2 ^ e := by positivity
  have hle : (whole m e : ℚ) ≤ m * 2 ^ e := by
    rw [whole_eq_floor]
    exact Nat.floor_le hp
  have hlt : (m * 2 ^ e : ℚ) < whole m e + 1 := by
    rw [whole_eq_floor]
    exact Nat.lt_floor_add_one _
  unfold toRat wholeInt at *
  cases s with
  | false => exact ⟨Int.natCast_nonneg _, by simpa using hle, by simpa using hlt⟩
  | true =>
    -- a number with a sign is not negative as a zero only
    have hzero : (m * 2 ^ e : ℚ) = 0 := le_antisymm (by simpa using h) hp
    have hwhole : whole m e = 0 := by
      rw [whole_eq_floor, hzero, Nat.floor_zero]
    simp [hzero, hwhole]

private theorem wholeInt_of_neg (h : toRat s m e < 0) :
    wholeInt s m e ≤ 0 ∧ toRat s m e ≤ wholeInt s m e ∧ wholeInt s m e - 1 < toRat s m e := by
  have hp : (0 : ℚ) ≤ m * 2 ^ e := by positivity
  cases s with
  | false => exact absurd h (not_lt.mpr hp)
  | true =>
    obtain ⟨hnonneg, hle, hlt⟩ := @wholeInt_of_nonneg m e false hp
    have hw : wholeInt true m e = -wholeInt false m e := rfl
    have hr : toRat true m e = -toRat false m e := rfl
    rw [hw, hr]
    push_cast
    exact ⟨by omega, by linarith, by linarith⟩

section Bounds

variable {i : Int}

/-- Cutting toward zero does not go below an integer that is not positive. -/
theorem le_wholeInt (hi : i ≤ 0) (h : (i : ℚ) ≤ toRat s m e) : i ≤ wholeInt s m e := by
  rcases le_or_gt 0 (toRat s m e) with hv | hv
  · exact hi.trans (wholeInt_of_nonneg hv).1
  · have := (wholeInt_of_neg hv).2.1
    exact_mod_cast h.trans this

theorem wholeInt_lt (hi : 0 < i) (h : toRat s m e < i) : wholeInt s m e < i := by
  rcases le_or_gt 0 (toRat s m e) with hv | hv
  · have := (wholeInt_of_nonneg hv).2.1
    exact_mod_cast this.trans_lt h
  · exact (wholeInt_of_neg hv).1.trans_lt hi

/-- An integer that differs from the whole part lies on the same side of the number. -/
theorem lt_toRat_of_lt_wholeInt (h : i < wholeInt s m e) : (i : ℚ) < toRat s m e := by
  have hle : (i : ℚ) ≤ wholeInt s m e - 1 := by exact_mod_cast Int.le_sub_one_of_lt h
  rcases le_or_gt 0 (toRat s m e) with hv | hv
  · linarith [(wholeInt_of_nonneg hv).2.1]
  · linarith [(wholeInt_of_neg hv).2.2]

theorem toRat_lt_of_wholeInt_lt (h : wholeInt s m e < i) : toRat s m e < i := by
  have hle : (wholeInt s m e : ℚ) + 1 ≤ i := by exact_mod_cast h
  rcases le_or_gt 0 (toRat s m e) with hv | hv
  · linarith [(wholeInt_of_nonneg hv).2.2]
  · linarith [(wholeInt_of_neg hv).2.1]

theorem wholeInt_of_toRat_eq (h : toRat s m e = i) : wholeInt s m e = i := by
  rcases lt_trichotomy (wholeInt s m e) i with hlt | heq | hgt
  · exact absurd h (toRat_lt_of_wholeInt_lt hlt).ne
  · exact heq
  · exact absurd h (lt_toRat_of_lt_wholeInt hgt).ne'

end Bounds

private theorem toRat_eq_wholeInt {k : Int} (h : (n * 2 ^ k : ℚ) = whole m e) (s : Bool) :
    toRat s n k = wholeInt s m e := by
  unfold toRat wholeInt
  cases s <;> simp [h]

private theorem truncate_eq (h : ofFloat f = .finite s m e) : truncate f = withSign s (roundRatio (whole m e) 1) := by
  rw [truncate, h]

private theorem toBitVec_sub_truncate {k : Int} (h : ofFloat f = .finite s m e)
    (hparts : ofFloat (truncate f) = .finite s n k) :
    (f - truncate f).toBits.toBitVec = UnpackedFloat.pack Format.binary64
      (UnpackedFloat.sub Format.binary64 (Binary64.finite s m e).unpacked (Binary64.finite s n k).unpacked) := by
  rw [toBitVec_sub, unpack_toModel, unpack_toModel, h, hparts]

/-- Where the whole part is zero, everything is cut off. -/
private theorem exists_truncate_of_zero (h : ofFloat f = .finite s m e) (hzero : whole m e = 0) :
    ofFloat (truncate f) = .finite s 0 (-1074) ∧
      ∃ t d k, ofFloat (f - truncate f) = .finite t d k ∧ toRat t d k = toRat s m e := by
  have hleast : IsMagnitude 0 (-1074) := ⟨by decide, by decide, by decide, .inl rfl⟩
  have hparts : ofFloat (truncate f) = .finite s 0 (-1074) := by
    rw [truncate_eq h, hzero]
    exact ofFloat_withSign hleast s
  have hsub := toBitVec_sub_truncate h hparts
  refine ⟨hparts, ?_⟩
  rcases Nat.eq_zero_or_pos m with rfl | hmpos
  · refine ⟨false, 0, -1074, ofFloat_of_pack hleast ?_, by rw [toRat_zero, toRat_zero]⟩
    rw [hsub]
    cases s <;> rfl
  · refine ⟨s, m, e, ofFloat_of_pack (isMagnitude_of_ofFloat h) ?_, rfl⟩
    rw [hsub, unpacked_zero, unpacked_pos s hmpos]
    rfl

/-- Where the whole part is not zero, it has the exponent of the double. -/
private theorem exists_truncate_of_pos (h : ofFloat f = .finite s m e) (hpos : 0 < whole m e) :
    ∃ n, ofFloat (truncate f) = .finite s n e ∧ (n * 2 ^ e : ℚ) = whole m e ∧
      ∃ t d k, ofFloat (f - truncate f) = .finite t d k ∧ toRat t d k = toRat s m e - toRat s n e := by
  have hm := isMagnitude_of_ofFloat h
  obtain ⟨n, hn, hmagnitude, hvalue⟩ := exists_whole hm hpos
  have hnpos : 0 < n := by
    rcases Nat.eq_zero_or_pos n with rfl | hnpos
    · rw [Nat.cast_zero, zero_mul] at hvalue
      have : whole m e = 0 := by exact_mod_cast hvalue.symm
      omega
    · exact hnpos
  have hround : roundRatio (whole m e) 1 = magnitudeBits n e := by
    refine roundRatio_exact hnpos hmagnitude Nat.one_pos ?_
    rw [Nat.cast_one, div_one, hvalue]
  have hparts : ofFloat (truncate f) = .finite s n e := by
    rw [truncate_eq h, hround]
    exact ofFloat_withSign hmagnitude s
  obtain ⟨t, d, k, hd, hrat, heq⟩ := sub_unpacked hm hn hnpos s
  have hsub := toBitVec_sub_truncate h hparts
  exact ⟨n, hparts, hvalue, t, d, k, ofFloat_of_pack hd (hsub.trans (by rw [heq])), hrat⟩

/-- A double is cut to a double, and what is cut off is one too. -/
theorem exists_truncate (h : ofFloat f = .finite s m e) :
    (∃ n k, ofFloat (truncate f) = .finite s n k ∧ (n * 2 ^ k : ℚ) = whole m e) ∧
    ∃ t d k, ofFloat (f - truncate f) = .finite t d k ∧ toRat t d k = toRat s m e - wholeInt s m e := by
  rcases Nat.eq_zero_or_pos (whole m e) with hzero | hpos
  · obtain ⟨hparts, t, d, k, hcut, hvalue⟩ := exists_truncate_of_zero h hzero
    have hwhole : (wholeInt s m e : ℚ) = 0 := by simp [wholeInt, hzero]
    exact ⟨⟨0, -1074, hparts, by simp [hzero]⟩, t, d, k, hcut, by rw [hvalue, hwhole, sub_zero]⟩
  · obtain ⟨n, hparts, hvalue, t, d, k, hcut, hrat⟩ := exists_truncate_of_pos h hpos
    exact ⟨⟨n, e, hparts, hvalue⟩, t, d, k, hcut, by rw [hrat, toRat_eq_wholeInt hvalue]⟩

/-- Nothing is left behind the whole part of an integer. -/
theorem sub_truncate_eq_zero_iff (h : ofFloat f = .finite s m e) :
    (f - truncate f == 0) = true ↔ toRat s m e = wholeInt s m e := by
  obtain ⟨-, t, d, k, hcut, hvalue⟩ := exists_truncate h
  rw [beq_iff, extended?_ofFloat hcut, hvalue, extended?_zero, ← sub_eq_zero]
  constructor
  · rintro ⟨p, hp, hzero⟩
    exact ExtendedRat.ofRat_inj.mp (Option.some.inj (hp.trans hzero.symm))
  · intro hzero
    exact ⟨_, rfl, by rw [hzero]⟩

/-! ### Casts to integers -/

private theorem mantissa_shiftRight (em : ExtendedMantissa) (k : Nat) : (em >>> k).mantissa = em.mantissa / 2 ^ k := by
  induction k with
  | zero => exact (Nat.div_one _).symm
  | succ k ih =>
    show (em >>> k).mantissa / 2 = _
    rw [ih, Nat.div_div_eq_div_mul, pow_succ]

private theorem roundToInt_eq (m : Nat) (e : Int) (s : Bool) :
    UnpackedFloat.roundToInt (unpackedSign s) m e = wholeInt s m e := by
  have hmantissa : (m <<< (e - 0).toNat) / 2 ^ (0 - (e - ((e - 0).toNat : Int))).toNat = whole m e := by
    have hexp : (0 - (e - ((e - 0).toNat : Int))).toNat = (-e).toNat := by omega
    rw [hexp, Int.sub_zero, Nat.shiftLeft_eq]
    simp [whole, scale]
  unfold UnpackedFloat.roundToInt UnpackedFloat.decreaseExponent UnpackedFloat.shiftToExponent
  dsimp only
  rw [mantissa_shiftRight, ExtendedMantissa.ofMantissaAndAccuracy, hmantissa]
  cases s <;> rfl

private theorem toInt_eq (h : ofFloat g = .finite s m e) (lo hi : Int) :
    UnpackedFloat.toInt lo hi g.toModel.unpack = wholeInt s m e := by
  rw [unpack_toModel, h]
  rcases Nat.eq_zero_or_pos m with rfl | hm
  · have hzero : whole 0 e = 0 := by
      rw [whole_eq_floor]
      simp
    rw [unpacked_zero, wholeInt, hzero]
    cases s <;> rfl
  · rw [unpacked_pos s hm]
    exact roundToInt_eq m e s

/-- The whole part of a whole part. -/
private theorem whole_of_eq {k : Int} (h : (n * 2 ^ k : ℚ) = whole m e) : whole n k = whole m e := by
  rw [whole_eq_floor n k, h, Nat.floor_natCast]

theorem toInt64_truncate (h : ofFloat f = .finite s m e) :
    toInt64 (truncate f) = Int64.ofIntClamp (wholeInt s m e) := by
  obtain ⟨⟨n, k, hparts, hvalue⟩, -⟩ := exists_truncate h
  show Int64.ofIntClamp (UnpackedFloat.toInt _ _ (truncate f).toModel.unpack) = _
  rw [toInt_eq hparts, wholeInt, wholeInt, whole_of_eq hvalue]

theorem toUInt64_truncate (h : ofFloat f = .finite s m e) :
    (truncate f).toUInt64 = UInt64.ofNatClamp (wholeInt s m e).toNat := by
  obtain ⟨⟨n, k, hparts, hvalue⟩, -⟩ := exists_truncate h
  show UInt64.ofNatClamp (UnpackedFloat.toInt _ _ (truncate f).toModel.unpack).toNat = _
  rw [toInt_eq hparts, wholeInt, wholeInt, whole_of_eq hvalue]

private theorem toInt_ofIntClamp {i : Int} (hlow : -2 ^ 63 ≤ i) (hhigh : i < 2 ^ 63) :
    (Int64.ofIntClamp i).toInt = i := by
  have hmin : Int64.minValue.toInt = -2 ^ 63 := by decide
  have hmax : Int64.maxValue.toInt = 2 ^ 63 - 1 := by decide
  rw [Int64.ofIntClamp, dif_pos (hmin.trans_le hlow), dif_pos (hmax.symm ▸ Int.le_sub_one_of_lt hhigh),
    Int64.toInt_ofIntLE]

/-- The cast gives the whole part where an `int` has room for it. -/
theorem toInt_toInt64 (h : ofFloat f = .finite s m e) (hlow : -2 ^ 63 ≤ wholeInt s m e)
    (hhigh : wholeInt s m e < 2 ^ 63) : (toInt64 f).toInt = wholeInt s m e := by
  show (Int64.ofIntClamp (UnpackedFloat.toInt _ _ f.toModel.unpack)).toInt = _
  rw [toInt_eq h, toInt_ofIntClamp hlow hhigh]

theorem toInt_toInt64_truncate (h : ofFloat f = .finite s m e) (hlow : -2 ^ 63 ≤ wholeInt s m e)
    (hhigh : wholeInt s m e < 2 ^ 63) : (toInt64 (truncate f)).toInt = wholeInt s m e := by
  rw [toInt64_truncate h, toInt_ofIntClamp hlow hhigh]

/-- The cast gives the whole part where a `uint` has room for it. -/
theorem toNat_toUInt64_truncate (h : ofFloat f = .finite s m e) (hlow : 0 ≤ wholeInt s m e)
    (hhigh : wholeInt s m e < 2 ^ 64) : ((truncate f).toUInt64.toNat : Int) = wholeInt s m e := by
  have hlt : (wholeInt s m e).toNat < UInt64.size := (Int.toNat_lt hlow).mpr hhigh
  rw [toUInt64_truncate h, UInt64.ofNatClamp, dif_pos hlt, UInt64.toNat_ofNatLT, Int.toNat_of_nonneg hlow]

/-- A double is an `int` when nothing is left behind its whole part and it is in their range. -/
theorem ofFloat_eq_ofInt_iff {i : Int64} : Exact.ofFloat f = .ofInt i.toInt ↔
    ((f - truncate f == 0) = true ∧ -9223372036854775808 ≤ f ∧ f < 9223372036854775808) ∧ toInt64 f = i := by
  have hlow : Exact.ofFloat (-9223372036854775808) = .ofInt (-9223372036854775808) := by decide +kernel
  have hhigh : Exact.ofFloat 9223372036854775808 = .ofInt 9223372036854775808 := by decide +kernel
  rw [ofFloat_eq_ofInt_iff_toRat, within_iff hlow hhigh]
  constructor
  · rintro ⟨s, m, e, hparts, hrat⟩
    have hwhole := wholeInt_of_toRat_eq hrat
    refine ⟨⟨?_, s, m, e, hparts, ?_, ?_⟩, ?_⟩
    · rw [sub_truncate_eq_zero_iff hparts, hrat, hwhole]
    · rw [hrat]
      exact_mod_cast i.le_toInt
    · rw [hrat]
      exact_mod_cast i.toInt_lt
    · rw [← Int64.toInt_inj, toInt_toInt64 hparts (hwhole ▸ i.le_toInt) (hwhole ▸ i.toInt_lt), hwhole]
  · rintro ⟨⟨hcut, s, m, e, hparts, hle, hlt⟩, rfl⟩
    have hint : (toInt64 f).toInt = wholeInt s m e :=
      toInt_toInt64 hparts (le_wholeInt (by decide) hle) (wholeInt_lt (by decide) hlt)
    exact ⟨s, m, e, hparts, by rw [hint, (sub_truncate_eq_zero_iff hparts).mp hcut]⟩

end ExprLang.Binary64
