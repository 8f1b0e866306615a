import ExprLang.Proofs.Number.Truncate
import ExprLang.Value.Comparison

/-!
# Numbers are compared exactly

Numbers of all kinds are ordered as the rational numbers and infinities that they are (`compare?_eq`), so neither comes
before the other where they are the same exact number (`compare?_eq_some_eq_iff_number?`). Against a double an integer
is ordered by the whole part of the double first and then by the fraction (`then_fractionOrder`), which is right since
an integer that differs from the whole part lies on the same side of the double. Doubles outside the range of the
integers do not get so far.
-/

namespace ExprLang.Value

open ExtendedRat (ofRat)
open Binary64 (truncate wholeInt toRat)

/-- The exact number that a value is. -/
def number? : Value → Option Exact
  | int n => some (.ofInt n.toInt)
  | uint n => some (.ofInt n.toNat)
  | float f => some (.ofFloat f)
  | _ => none

/-- The rational number or infinity that a value is. -/
def extended? (v : Value) : Option ExtendedRat := v.number?.bind Exact.extended?

section Comparisons

variable {α : Type} [LT α] [DecidableLT α] [DecidableEq α]

private theorem compareOfLessAndEq_eq_cmp (f : α → Int) (hlt : ∀ a b, a < b ↔ f a < f b)
    (heq : ∀ a b, f a = f b ↔ a = b) (a b : α) : compareOfLessAndEq a b = cmp (f a : ℚ) (f b) := by
  have hcmp : cmp (f a : ℚ) (f b) = cmp (f a) (f b) := (Int.cast_strictMono (R := ℚ)).cmp_map_eq _ _
  rw [hcmp, compareOfLessAndEq, cmp, cmpUsing]
  simp only [hlt, ← heq]
  grind

end Comparisons

theorem compareOfLessAndEq_int (a b : Int64) : compareOfLessAndEq a b = cmp (a.toInt : ℚ) b.toInt :=
  compareOfLessAndEq_eq_cmp Int64.toInt (fun _ _ => Int64.lt_iff_toInt_lt) (fun _ _ => Int64.toInt_inj) a b

theorem compareOfLessAndEq_uint (a b : UInt64) : compareOfLessAndEq a b = cmp (a.toNat : ℚ) b.toNat := by
  refine compareOfLessAndEq_eq_cmp (fun n => (n.toNat : Int)) (fun m n => ?_) (fun m n => ?_) a b
  · rw [UInt64.lt_iff_toNat_lt, Int.ofNat_lt]
  · rw [Int.ofNat_inj, UInt64.toNat_inj]

theorem compareIntUInt_eq (a : Int64) (b : UInt64) : compareIntUInt a b = cmp (a.toInt : ℚ) b.toNat := by
  unfold compareIntUInt
  split
  · rename_i ha
    have ha' : 0 ≤ a.toInt := by simpa [Int64.le_iff_toInt_le] using ha
    have hnat : a.toUInt64.toNat = a.toInt.toNat := Int64.toNat_toUInt64_of_le ha
    have hint : (a.toUInt64.toNat : Int) = a.toInt := by omega
    rw [compareOfLessAndEq_uint, ← hint, Int.cast_natCast]
  · rename_i ha
    have ha' : a.toInt < 0 := by simpa [Int64.le_iff_toInt_le] using ha
    have : (a.toInt : ℚ) < 0 := by exact_mod_cast ha'
    refine ((cmp_eq_lt_iff _ _).mpr ?_).symm
    exact this.trans_le (Nat.cast_nonneg _)

/-! ### Doubles -/

private theorem isNaN_iff_extended? (f : Float) : f.isNaN = true ↔ (Exact.ofFloat f).extended? = none := by
  rw [Exact.extended?_eq_none_iff, Exact.ofFloat_eq_nan_iff, Binary64.isNaN_iff]

theorem compareFloat?_eq (f g : Float) : compareFloat? f g =
    (Exact.ofFloat f).extended?.bind fun p => (Exact.ofFloat g).extended?.map fun q => cmp p q := by
  unfold compareFloat?
  cases hf : (Exact.ofFloat f).extended? with
  | none =>
    have hlt : ¬ f < g := by simp [Binary64.lt_iff, hf]
    have heq : ¬ (f == g) = true := by simp [Binary64.beq_iff, hf]
    have hgt : ¬ g < f := by simp [Binary64.lt_iff, hf]
    rw [if_neg hlt, if_neg heq, if_neg hgt]
    rfl
  | some p =>
    cases hg : (Exact.ofFloat g).extended? with
    | none =>
      have hlt : ¬ f < g := by simp [Binary64.lt_iff, hg]
      have heq : ¬ (f == g) = true := by simp [Binary64.beq_iff, hg]
      have hgt : ¬ g < f := by simp [Binary64.lt_iff, hg]
      rw [if_neg hlt, if_neg heq, if_neg hgt]
      rfl
    | some q =>
      have hlt : f < g ↔ p < q := by simp [Binary64.lt_iff, hf, hg]
      have heq : (f == g) = true ↔ p = q := by
        rw [Binary64.beq_iff, hf, hg, eq_comm]
        simp
      have hgt : g < f ↔ q < p := by simp [Binary64.lt_iff, hf, hg]
      rw [Option.bind_some, Option.map_some]
      rcases lt_trichotomy p q with h | h | h
      · rw [if_pos (hlt.mpr h), (cmp_eq_lt_iff p q).mpr h]
      · rw [if_neg (mt hlt.mp h.not_lt), if_pos (heq.mpr h), (cmp_eq_eq_iff p q).mpr h]
      · rw [if_neg (mt hlt.mp h.not_gt), if_neg (mt heq.mp h.ne'), if_pos (hgt.mpr h), (cmp_eq_gt_iff p q).mpr h]

/-- The fraction of a double orders its whole part and the double. -/
private theorem fractionOrder_eq {f : Float} {p : ℚ} (h : (Exact.ofFloat f).extended? = some (ofRat p)) :
    fractionOrder f = cmp 0 p := by
  have hpos : 0 < f ↔ 0 < p := by simp [Binary64.lt_iff, Binary64.extended?_zero, h, ExtendedRat.ofRat_lt_ofRat]
  have hneg : f < 0 ↔ p < 0 := by simp [Binary64.lt_iff, Binary64.extended?_zero, h, ExtendedRat.ofRat_lt_ofRat]
  simp only [fractionOrder, hpos, hneg, cmp, cmpUsing]

private theorem cmp_then_cmp (n w : Int) {p : ℚ} (hlt : n < w → n < p) (hgt : w < n → p < n) :
    (cmp (n : ℚ) w).then (cmp 0 (p - w)) = cmp (n : ℚ) p := by
  rcases lt_trichotomy n w with h | rfl | h
  · have h' : (n : ℚ) < w := by exact_mod_cast h
    rw [(cmp_eq_lt_iff _ _).mpr h', (cmp_eq_lt_iff _ _).mpr (hlt h)]
    rfl
  · have hsub : cmp 0 (p - n) = cmp (n : ℚ) p := by
      have h' := cmp_add_right (0 : ℚ) (p - n) n
      rwa [zero_add, sub_add_cancel, eq_comm] at h'
    rw [cmp_self_eq_eq, hsub]
    rfl
  · have h' : (w : ℚ) < n := by exact_mod_cast h
    rw [(cmp_eq_gt_iff _ _).mpr h', (cmp_eq_gt_iff _ _).mpr (hgt h)]
    rfl

section Bounded

variable {low high f : Float} {l h n : Int} {compareWhole : Float → Ordering}

/-- The order with the whole part, and then with the fraction, is the order with the number. -/
private theorem then_fractionOrder {s : Bool} {m : Nat} {e : Int} (hparts : Binary64.ofFloat f = .finite s m e)
    (hwhole : compareWhole (truncate f) = cmp (n : ℚ) (wholeInt s m e)) :
    (compareWhole (truncate f)).then (fractionOrder (f - truncate f)) = cmp (n : ℚ) (toRat s m e) := by
  obtain ⟨-, t, d, k, hfraction, hvalue⟩ := Binary64.exists_truncate hparts
  have horder : fractionOrder (f - truncate f) = cmp 0 (toRat s m e - wholeInt s m e) := by
    refine fractionOrder_eq ?_
    rw [Binary64.extended?_ofFloat hfraction, hvalue]
  rw [hwhole, horder]
  exact cmp_then_cmp n _ Binary64.lt_toRat_of_lt_wholeInt Binary64.toRat_lt_of_wholeInt_lt

/-- An integer within bounds is ordered against a double as a number, if it is against whole parts within them. -/
private theorem compareToFloat?_eq (hlow : Exact.ofFloat low = .ofInt l) (hhigh : Exact.ofFloat high = .ofInt h)
    (hl : l ≤ 0) (hh : 0 < h) (hln : l ≤ n) (hnh : n < h)
    (hwhole : ∀ s m e, Binary64.ofFloat f = .finite s m e → l ≤ wholeInt s m e → wholeInt s m e < h →
      compareWhole (truncate f) = cmp (n : ℚ) (wholeInt s m e)) :
    compareToFloat? low high compareWhole f = (Exact.ofFloat f).extended?.map fun q => cmp (ofRat n) q := by
  have hln' : (l : ℚ) ≤ n := by exact_mod_cast hln
  have hnh' : (n : ℚ) < h := by exact_mod_cast hnh
  unfold compareToFloat?
  cases hf : (Exact.ofFloat f).extended? with
  | none =>
    rw [if_pos ((isNaN_iff_extended? f).mpr hf)]
    rfl
  | some p =>
    have hnan : ¬ f.isNaN = true := by
      rw [isNaN_iff_extended?, hf]
      simp
    have hle : high ≤ f ↔ ofRat h ≤ p := by simp [Binary64.le_iff, hhigh, hf, Exact.extended?_ofInt]
    have hlt : f < low ↔ p < ofRat l := by simp [Binary64.lt_iff, hlow, hf, Exact.extended?_ofInt]
    rw [if_neg hnan, Option.map_some]
    by_cases hhp : ofRat h ≤ p
    · have hnp : ofRat n < p := (ExtendedRat.ofRat_lt_ofRat.mpr hnh').trans_le hhp
      rw [if_pos (hle.mpr hhp), (cmp_eq_lt_iff _ _).mpr hnp]
    · by_cases hpl : p < ofRat l
      · have hpn : p < ofRat n := hpl.trans_le (ExtendedRat.ofRat_le_ofRat.mpr hln')
        rw [if_neg (mt hle.mp hhp), if_pos (hlt.mpr hpl), (cmp_eq_gt_iff _ _).mpr hpn]
      · obtain ⟨s, m, e, hparts, rfl⟩ := Binary64.exists_finite hf (not_lt.mp hpl) (not_le.mp hhp)
        rw [if_neg (mt hle.mp hhp), if_neg (mt hlt.mp hpl)]
        rw [ExtendedRat.ofRat_le_ofRat, not_le] at hhp
        rw [ExtendedRat.ofRat_lt_ofRat, not_lt] at hpl
        have horder := hwhole s m e hparts (Binary64.le_wholeInt hl hpl) (Binary64.wholeInt_lt hh hhp)
        rw [ExtendedRat.cmp_ofRat, ← then_fractionOrder hparts horder]

end Bounded

theorem compareIntFloat?_eq (a : Int64) (f : Float) : compareIntFloat? a f =
    (Exact.ofFloat f).extended?.map fun q => cmp (ofRat a.toInt) q := by
  have hlow : Exact.ofFloat (-9223372036854775808) = .ofInt (-9223372036854775808) := by decide +kernel
  have hhigh : Exact.ofFloat 9223372036854775808 = .ofInt 9223372036854775808 := by decide +kernel
  refine compareToFloat?_eq hlow hhigh (by decide) (by decide) a.le_toInt a.toInt_lt fun s m e hparts hl hh => ?_
  rw [compareOfLessAndEq_int, Binary64.toInt_toInt64_truncate hparts hl hh]

theorem compareUIntFloat?_eq (a : UInt64) (f : Float) : compareUIntFloat? a f =
    (Exact.ofFloat f).extended?.map fun q => cmp (ofRat a.toNat) q := by
  have hlow : Exact.ofFloat 0 = .ofInt 0 := by decide +kernel
  have hhigh : Exact.ofFloat 18446744073709551616 = .ofInt 18446744073709551616 := by decide +kernel
  have ha := a.toNat_lt
  have hlt : (a.toNat : Int) < 18446744073709551616 := by omega
  refine compareToFloat?_eq hlow hhigh (by decide) (by decide) (Int.natCast_nonneg _) hlt fun s m e hparts hl hh => ?_
  rw [compareOfLessAndEq_uint, ← Binary64.toNat_toUInt64_truncate hparts hl hh]
  rfl

/-! ### All numbers -/

variable {a b c : Value}

theorem extended?_int (n : Int64) : (int n).extended? = some (ofRat n.toInt) := Exact.extended?_ofInt _

theorem extended?_uint (n : UInt64) : (uint n).extended? = some (ofRat n.toNat) := Exact.extended?_ofInt _

theorem extended?_float (f : Float) : (float f).extended? = (Exact.ofFloat f).extended? := rfl

private theorem map_swap_map_cmp (p : ExtendedRat) (o : Option ExtendedRat) :
    (o.map fun q => cmp p q).map Ordering.swap = o.bind fun q => (some p).map fun r => cmp q r := by
  cases o with
  | none => rfl
  | some q => exact congrArg some (cmp_swap p q)

theorem compare?_eq (ha : a.kind.isNumeric = true) (hb : b.kind.isNumeric = true) :
    a.compare? b = a.extended?.bind fun p => b.extended?.map fun q => cmp p q := by
  have integers (p q : ℚ) : ((some (ofRat p)).bind fun x => (some (ofRat q)).map fun y => cmp x y) = some (cmp p q) :=
    congrArg some ExtendedRat.cmp_ofRat
  cases a with
  | int m =>
    cases b with
    | int n => rw [compare?, compareOfLessAndEq_int, extended?_int, extended?_int, integers]
    | uint n => rw [compare?, compareIntUInt_eq, extended?_int, extended?_uint, integers]
    | float f => rw [compare?, compareIntFloat?_eq, extended?_int, extended?_float, Option.bind_some]
    | _ => cases hb
  | uint m =>
    cases b with
    | int n => rw [compare?, compareIntUInt_eq, cmp_swap, extended?_uint, extended?_int, integers]
    | uint n => rw [compare?, compareOfLessAndEq_uint, extended?_uint, extended?_uint, integers]
    | float f => rw [compare?, compareUIntFloat?_eq, extended?_uint, extended?_float, Option.bind_some]
    | _ => cases hb
  | float f =>
    cases b with
    | int n => rw [compare?, compareIntFloat?_eq, map_swap_map_cmp, extended?_float, extended?_int]
    | uint n => rw [compare?, compareUIntFloat?_eq, map_swap_map_cmp, extended?_float, extended?_uint]
    | float g => rw [compare?, compareFloat?_eq, extended?_float, extended?_float]
    | _ => cases hb
  | _ => cases ha

theorem extended?_eq_none_iff (ha : a.kind.isNumeric = true) :
    a.extended? = none ↔ ∃ f, a = float f ∧ f.isNaN = true := by
  cases a with
  | int => simp [extended?_int]
  | uint => simp [extended?_uint]
  | float f =>
    rw [extended?_float, ← isNaN_iff_extended?]
    constructor
    · exact fun h => ⟨f, rfl, h⟩
    · rintro ⟨_, h, hnan⟩
      obtain rfl := Value.float.inj h
      exact hnan
  | _ => cases ha

theorem compare?_eq_some_eq_iff (ha : a.kind.isNumeric = true) (hb : b.kind.isNumeric = true) :
    a.compare? b = some .eq ↔ ∃ p, a.extended? = some p ∧ b.extended? = some p := by
  simp only [compare?_eq ha hb, Option.bind_eq_some_iff, Option.map_eq_some_iff, cmp_eq_eq_iff]
  constructor
  · rintro ⟨p, hp, _, hq, rfl⟩
    exact ⟨p, hp, hq⟩
  · rintro ⟨p, hp, hq⟩
    exact ⟨p, hp, p, hq, rfl⟩

/-- Numbers of which neither comes before the other are the same exact number. -/
theorem compare?_eq_some_eq_iff_number? (ha : a.kind.isNumeric = true) (hb : b.kind.isNumeric = true) :
    a.compare? b = some .eq ↔ ∃ x ≠ Exact.nan, a.number? = some x ∧ b.number? = some x := by
  have hnumber {v : Value} (hv : v.kind.isNumeric = true) : ∃ x, v.number? = some x := by
    cases v with
    | int | uint | float => exact ⟨_, rfl⟩
    | _ => cases hv
  obtain ⟨x, hx⟩ := hnumber ha
  obtain ⟨y, hy⟩ := hnumber hb
  rw [compare?_eq_some_eq_iff ha hb, extended?, extended?, hx, hy]
  simp only [Option.some_inj, Option.bind_some]
  constructor
  · rintro ⟨p, hp, hq⟩
    have hne : x ≠ .nan := by
      rintro rfl
      cases hp
    exact ⟨x, hne, rfl, (Exact.extended?_inj hp hq).symm⟩
  · rintro ⟨z, hz, rfl, rfl⟩
    exact (Option.ne_none_iff_exists'.mp (mt Exact.extended?_eq_none_iff.mp hz)).imp fun _ h => ⟨h, h⟩

end ExprLang.Value
