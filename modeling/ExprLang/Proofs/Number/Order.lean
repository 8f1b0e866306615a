import ExprLang.Proofs.Number.Exact
import ExprLang.Proofs.Number.Packing

/-!
# The order of doubles

An exact number is a rational number or one of the two infinities (`Exact.extended?`). The operations on doubles order
them accordingly (`lt_iff`, `le_iff`, `beq_iff`): of two finite doubles the one with the greater exponent is greater,
since the leading bit of its mantissa is set, and the mantissas count where the exponents are equal. The doubles between
two integers are finite (`within_iff`).
-/

namespace ExprLang

/-- The rational numbers between the two infinities. -/
abbrev ExtendedRat := WithBot (WithTop ℚ)

namespace ExtendedRat

/-- A rational number between the infinities. -/
def ofRat (p : ℚ) : ExtendedRat := ((p : WithTop ℚ) : WithBot (WithTop ℚ))

variable {p q : ℚ}

theorem ofRat_inj : ofRat p = ofRat q ↔ p = q := by
  rw [ofRat, ofRat, WithBot.coe_inj, WithTop.coe_inj]

theorem ofRat_lt_ofRat : ofRat p < ofRat q ↔ p < q := by
  rw [ofRat, ofRat, WithBot.coe_lt_coe, WithTop.coe_lt_coe]

theorem ofRat_le_ofRat : ofRat p ≤ ofRat q ↔ p ≤ q := by
  rw [ofRat, ofRat, WithBot.coe_le_coe, WithTop.coe_le_coe]

theorem bot_lt_ofRat : ⊥ < ofRat p := WithBot.bot_lt_coe _

theorem ofRat_lt_top : ofRat p < ⊤ := WithBot.coe_lt_coe.mpr (WithTop.coe_lt_top p)

theorem cmp_ofRat : cmp (ofRat p) (ofRat q) = cmp p q := by
  simp [cmp, cmpUsing, ofRat_lt_ofRat]

end ExtendedRat

namespace Exact

open ExtendedRat (ofRat)

variable {x y : Exact}

/-- The rational number or infinity that an exact number is. -/
def extended? : Exact → Option ExtendedRat
  | .nan => none
  | .infinite true => some ⊥
  | .infinite false => some ⊤
  | .finite x => some (ofRat x.toRat)

theorem extended?_eq_none_iff : x.extended? = none ↔ x = .nan := by
  cases x with
  | nan => simp [extended?]
  | infinite s => cases s <;> simp [extended?]
  | finite x => simp [extended?]

theorem extended?_ofInt (n : Int) : (ofInt n).extended? = some (ofRat n) :=
  congrArg (fun p => some (ofRat p)) (Dyadic.toRat_intCast n)

theorem extended?_inj {p : ExtendedRat} (hx : x.extended? = some p) (hy : y.extended? = some p) : x = y := by
  have hfinite (d : Dyadic) : ofRat d.toRat ≠ ⊥ ∧ ofRat d.toRat ≠ ⊤ :=
    ⟨ExtendedRat.bot_lt_ofRat.ne', ExtendedRat.ofRat_lt_top.ne⟩
  rw [← hx] at hy
  cases x with
  | nan => nomatch hx
  | infinite s =>
    cases y with
    | nan => cases s <;> nomatch hy
    | infinite t => cases s <;> cases t <;> first | rfl | nomatch hy
    | finite b => cases s <;> simp [extended?, hfinite] at hy
  | finite a =>
    cases y with
    | nan => nomatch hy
    | infinite t =>
      cases t
      · exact absurd (Option.some.inj hy).symm (hfinite a).2
      · exact absurd (Option.some.inj hy).symm (hfinite a).1
    | finite b =>
      have hrat : b.toRat = a.toRat := ExtendedRat.ofRat_inj.mp (Option.some.inj hy)
      rw [Dyadic.toRat_inj.mp hrat]

end Exact

namespace Binary64

open Float.Model UnpackedFloat
open ExtendedRat (ofRat)

variable {s t : Bool} {m n : Nat} {e e' : Int} {x y : Binary64} {f g : Float}

/-! ### Magnitudes -/

/-- The rational number with the given sign, mantissa and exponent. -/
def toRat (negative : Bool) (m : Nat) (e : Int) : ℚ := if negative then -(m * 2 ^ e) else m * 2 ^ e

theorem toRat_zero (s : Bool) (e : Int) : toRat s 0 e = 0 := by
  cases s <;> simp [toRat]

private theorem toRat_pos (hm : 0 < m) (e : Int) : 0 < toRat false m e := by
  show (0 : ℚ) < m * 2 ^ e
  positivity

private theorem toRat_neg (hm : 0 < m) (e : Int) : toRat true m e < 0 := neg_lt_zero.mpr (toRat_pos hm e)

theorem extended?_finite (s : Bool) (m : Nat) (e : Int) :
    (Exact.ofBinary64 (.finite s m e)).extended? = some (ofRat (toRat s m e)) := by
  rw [Exact.ofBinary64, Exact.extended?, Dyadic.toRat_ofIntWithPrec_eq_mul_two_pow, neg_neg, toRat]
  cases s <;> simp

/-- Of two doubles without sign, the one with the greater exponent is greater. -/
private theorem mul_zpow_lt (hm : IsMagnitude m e) (hn : IsMagnitude n e') (h : e < e') :
    (m * 2 ^ e : ℚ) < n * 2 ^ e' := by
  obtain ⟨hmax, hmin, _, _⟩ := hm
  obtain ⟨_, _, _, hcanonical⟩ := hn
  have hlead : exponentWeight ≤ n := by omega
  have hmax' : (m : ℚ) < 2 * exponentWeight := by exact_mod_cast hmax
  have hlead' : (exponentWeight : ℚ) ≤ n := by exact_mod_cast hlead
  calc (m * 2 ^ e : ℚ) < 2 * exponentWeight * 2 ^ e := by gcongr
    _ = exponentWeight * 2 ^ (e + 1) := by
      rw [zpow_add_one₀ (by norm_num)]
      ring
    _ ≤ n * 2 ^ e' := by
      gcongr
      · norm_num
      · omega

private theorem compare_magnitudes (hm : IsMagnitude m e) (hn : IsMagnitude n e') :
    (compare e e').then (compare m n) = cmp (m * 2 ^ e : ℚ) (n * 2 ^ e') := by
  rcases lt_trichotomy e e' with h | rfl | h
  · rw [compare_lt_iff_lt.mpr h, (cmp_eq_lt_iff _ _).mpr (mul_zpow_lt hm hn h)]
    rfl
  · have hp : (0 : ℚ) < 2 ^ e := by positivity
    rw [cmp_mul_pos_right hp, compare_eq_iff_eq.mpr rfl, Nat.strictMono_cast.cmp_map_eq m n]
    exact (cmp_eq_compare m n).symm
  · rw [compare_gt_iff_gt.mpr h, (cmp_eq_gt_iff _ _).mpr (mul_zpow_lt hn hm h)]
    rfl

/-! ### Doubles with a sign -/

theorem unpacked_zero (s : Bool) (e : Int) : (finite s 0 e).unpacked = .zero (unpackedSign s) := rfl

theorem unpacked_pos (s : Bool) (hm : 0 < m) (e : Int) :
    (finite s m e).unpacked = .finite (unpackedSign s) m e hm := dif_pos hm

private theorem compare_finite (hm : IsMagnitude m e) (hn : IsMagnitude n e') :
    (finite s m e).unpacked.compare (finite t n e').unpacked = some (cmp (toRat s m e) (toRat t n e')) := by
  rcases Nat.eq_zero_or_pos m with rfl | hmpos
  · rcases Nat.eq_zero_or_pos n with rfl | hnpos
    · rw [toRat_zero, toRat_zero, cmp_self_eq_eq]
      rfl
    · rw [toRat_zero, unpacked_zero, unpacked_pos t hnpos]
      cases t with
      | false =>
        rw [(cmp_eq_lt_iff _ _).mpr (toRat_pos hnpos e')]
        rfl
      | true =>
        rw [(cmp_eq_gt_iff _ _).mpr (toRat_neg hnpos e')]
        rfl
  · rcases Nat.eq_zero_or_pos n with rfl | hnpos
    · rw [toRat_zero, unpacked_zero, unpacked_pos s hmpos]
      cases s with
      | false =>
        rw [(cmp_eq_gt_iff _ _).mpr (toRat_pos hmpos e)]
        rfl
      | true =>
        rw [(cmp_eq_lt_iff _ _).mpr (toRat_neg hmpos e)]
        rfl
    · rw [unpacked_pos s hmpos, unpacked_pos t hnpos]
      cases s with
      | false =>
        cases t with
        | false => exact congrArg some (compare_magnitudes hm hn)
        | true =>
          rw [(cmp_eq_gt_iff _ _).mpr ((toRat_neg hnpos e').trans (toRat_pos hmpos e))]
          rfl
      | true =>
        cases t with
        | false =>
          rw [(cmp_eq_lt_iff _ _).mpr ((toRat_neg hmpos e).trans (toRat_pos hnpos e'))]
          rfl
        | true =>
          -- the order is that of the magnitudes the other way round
          have hanti : StrictAnti fun p : ℚ => -p := fun _ _ => neg_lt_neg
          show some ((compare e e').then (compare m n)).swap = some (cmp (-(m * 2 ^ e : ℚ)) (-(n * 2 ^ e')))
          rw [hanti.cmp_map_eq, ← cmp_swap, compare_magnitudes hm hn]

/-- The mantissa and exponent of the double, if it is finite, are those of a magnitude. -/
def IsCanonical : Binary64 → Prop
  | .finite _ m e => IsMagnitude m e
  | _ => True

theorem isCanonical_ofFloat (f : Float) : (ofFloat f).IsCanonical := by
  rw [ofFloat_eq]
  cases h : ofBits f.toBits with
  | nan | infinite => trivial
  | finite => exact (signedBits_of_ofBits h).1

theorem isMagnitude_of_ofFloat {f : Float} {s : Bool} {m : Nat} {e : Int} (h : ofFloat f = .finite s m e) :
    IsMagnitude m e := by
  have hcanonical := isCanonical_ofFloat f
  rwa [h] at hcanonical

private theorem compare_unpacked (hx : x.IsCanonical) (hy : y.IsCanonical) : x.unpacked.compare y.unpacked =
    (Exact.ofBinary64 x).extended?.bind fun p => (Exact.ofBinary64 y).extended?.map fun q => cmp p q := by
  cases x with
  | nan => rfl
  | infinite s =>
    cases y with
    | nan => cases s <;> rfl
    | infinite t => cases s <;> cases t <;> rfl
    | finite t n e' =>
      rcases Nat.eq_zero_or_pos n with rfl | hn
      · cases s <;> rfl
      · rw [unpacked_pos t hn]
        cases s <;> rfl
  | finite s m e =>
    cases y with
    | nan =>
      rcases Nat.eq_zero_or_pos m with rfl | hm
      · rfl
      · rw [unpacked_pos s hm]
        rfl
    | infinite t =>
      rcases Nat.eq_zero_or_pos m with rfl | hm
      · cases t <;> rfl
      · rw [unpacked_pos s hm]
        cases s <;> cases t <;> rfl
    | finite t n e' =>
      rw [compare_finite hx hy, extended?_finite, extended?_finite, Option.bind_some, Option.map_some,
        ExtendedRat.cmp_ofRat]

/-! ### Operations on doubles -/

private theorem compare_unpack (f g : Float) : f.toModel.unpack.compare g.toModel.unpack =
    (Exact.ofFloat f).extended?.bind fun p => (Exact.ofFloat g).extended?.map fun q => cmp p q := by
  rw [unpack_toModel, unpack_toModel, compare_unpacked (isCanonical_ofFloat f) (isCanonical_ofFloat g)]
  rfl

private theorem compare_unpack_iff {o : Ordering} : f.toModel.unpack.compare g.toModel.unpack = some o ↔
    ∃ p q, (Exact.ofFloat f).extended? = some p ∧ (Exact.ofFloat g).extended? = some q ∧ cmp p q = o := by
  rw [compare_unpack]
  simp [Option.bind_eq_some_iff]

theorem lt_iff : f < g ↔
    ∃ p q, (Exact.ofFloat f).extended? = some p ∧ (Exact.ofFloat g).extended? = some q ∧ p < q := by
  have hlt : f < g ↔ UnpackedFloat.lt f.toModel.unpack g.toModel.unpack = true := by
    show decide (f.toModel < g.toModel) = true ↔ _
    rw [decide_eq_true_iff]
    rfl
  rw [hlt, UnpackedFloat.lt, beq_iff_eq, compare_unpack_iff]
  simp only [cmp_eq_lt_iff]

theorem le_iff : f ≤ g ↔
    ∃ p q, (Exact.ofFloat f).extended? = some p ∧ (Exact.ofFloat g).extended? = some q ∧ p ≤ q := by
  have hle : f ≤ g ↔ UnpackedFloat.le f.toModel.unpack g.toModel.unpack = true := by
    show decide (f.toModel ≤ g.toModel) = true ↔ _
    rw [decide_eq_true_iff]
    rfl
  rw [hle, UnpackedFloat.le, Option.any_eq_true]
  simp only [compare_unpack_iff, Ordering.isLE_iff_ne_gt, ← not_lt, ← cmp_eq_gt_iff]
  constructor
  · rintro ⟨_, ⟨p, q, hp, hq, rfl⟩, ho⟩
    exact ⟨p, q, hp, hq, ho⟩
  · rintro ⟨p, q, hp, hq, ho⟩
    exact ⟨_, ⟨p, q, hp, hq, rfl⟩, ho⟩

theorem beq_iff : (f == g) = true ↔
    ∃ p, (Exact.ofFloat f).extended? = some p ∧ (Exact.ofFloat g).extended? = some p := by
  show UnpackedFloat.beq f.toModel.unpack g.toModel.unpack = true ↔ _
  rw [UnpackedFloat.beq, beq_iff_eq, compare_unpack_iff]
  simp only [cmp_eq_eq_iff]
  constructor
  · rintro ⟨p, _, hp, hq, rfl⟩
    exact ⟨p, hp, hq⟩
  · rintro ⟨p, hp, hq⟩
    exact ⟨p, p, hp, hq, rfl⟩

theorem extended?_zero : (Exact.ofFloat 0).extended? = some (ofRat 0) := by
  have hzero : Exact.ofFloat 0 = .ofInt 0 := by decide +kernel
  rw [hzero, Exact.extended?_ofInt]
  rfl

/-! ### Doubles against integers -/

theorem extended?_ofFloat (hf : ofFloat f = .finite s m e) :
    (Exact.ofFloat f).extended? = some (ofRat (toRat s m e)) := by
  rw [Exact.ofFloat, hf, extended?_finite]

/-- A double between rational bounds is finite. -/
theorem exists_finite {p : ExtendedRat} {a b : ℚ} (hf : (Exact.ofFloat f).extended? = some p)
    (ha : ofRat a ≤ p) (hb : p < ofRat b) :
    ∃ s m e, ofFloat f = .finite s m e ∧ p = ofRat (toRat s m e) := by
  cases hparts : ofFloat f with
  | nan =>
    rw [Exact.ofFloat, hparts] at hf
    cases hf
  | infinite s =>
    rw [Exact.ofFloat, hparts] at hf
    cases s with
    | false =>
      obtain rfl : ⊤ = p := Option.some.inj hf
      exact absurd hb not_top_lt
    | true =>
      obtain rfl : ⊥ = p := Option.some.inj hf
      exact absurd ExtendedRat.bot_lt_ofRat (not_lt.mpr ha)
  | finite s m e =>
    rw [extended?_ofFloat hparts] at hf
    exact ⟨s, m, e, rfl, (Option.some.inj hf).symm⟩

/-- A double is an integer when it is finite and its number is the integer. -/
theorem ofFloat_eq_ofInt_iff_toRat {i : Int} :
    Exact.ofFloat f = .ofInt i ↔ ∃ s m e, ofFloat f = .finite s m e ∧ toRat s m e = i := by
  constructor
  · intro h
    have hf : (Exact.ofFloat f).extended? = some (ofRat i) := by rw [h, Exact.extended?_ofInt]
    cases hparts : ofFloat f with
    | nan | infinite =>
      rw [Exact.ofFloat, hparts] at h
      cases h
    | finite s m e =>
      rw [extended?_ofFloat hparts, Option.some_inj, ExtendedRat.ofRat_inj] at hf
      exact ⟨s, m, e, rfl, hf⟩
  · rintro ⟨s, m, e, hparts, hvalue⟩
    refine Exact.extended?_inj (extended?_ofFloat hparts) ?_
    rw [Exact.extended?_ofInt, hvalue]

section Bounds

variable {bound : Float} {i : Int} (hf : ofFloat f = .finite s m e) (hbound : Exact.ofFloat bound = .ofInt i)
include hf hbound

theorem lt_bound_iff : f < bound ↔ toRat s m e < i := by
  simp [lt_iff, hbound, extended?_ofFloat hf, Exact.extended?_ofInt, ExtendedRat.ofRat_lt_ofRat]

theorem le_bound_iff : f ≤ bound ↔ toRat s m e ≤ i := by
  simp [le_iff, hbound, extended?_ofFloat hf, Exact.extended?_ofInt, ExtendedRat.ofRat_le_ofRat]

theorem bound_le_iff : bound ≤ f ↔ i ≤ toRat s m e := by
  simp [le_iff, hbound, extended?_ofFloat hf, Exact.extended?_ofInt, ExtendedRat.ofRat_le_ofRat]

end Bounds

/-- The doubles between two integers are finite, with numbers between them. -/
theorem within_iff {low high : Float} {i j : Int} (hlow : Exact.ofFloat low = .ofInt i)
    (hhigh : Exact.ofFloat high = .ofInt j) :
    low ≤ f ∧ f < high ↔ ∃ s m e, ofFloat f = .finite s m e ∧ i ≤ toRat s m e ∧ toRat s m e < j := by
  constructor
  · rintro ⟨hle, hlt⟩
    obtain ⟨_, p, hp, hf, hip⟩ := le_iff.mp hle
    obtain ⟨_, _, hf', hq, hpj⟩ := lt_iff.mp hlt
    obtain rfl := Option.some.inj (hf.symm.trans hf')
    rw [hlow, Exact.extended?_ofInt] at hp
    rw [hhigh, Exact.extended?_ofInt] at hq
    obtain rfl := Option.some.inj hp
    obtain rfl := Option.some.inj hq
    obtain ⟨s, m, e, hparts, rfl⟩ := exists_finite hf hip hpj
    exact ⟨s, m, e, hparts, ExtendedRat.ofRat_le_ofRat.mp hip, ExtendedRat.ofRat_lt_ofRat.mp hpj⟩
  · rintro ⟨s, m, e, hparts, hle, hlt⟩
    exact ⟨(bound_le_iff hparts hlow).mpr hle, (lt_bound_iff hparts hhigh).mpr hlt⟩

/-- The infinities lie beyond all bounds. -/
theorem beyond_of_isInf {low high : Float} {i j : Int} (h : f.isInf = true) (hlow : Exact.ofFloat low = .ofInt i)
    (hhigh : Exact.ofFloat high = .ofInt j) : f < low ∧ f ≤ low ∨ high ≤ f := by
  obtain ⟨s, hs⟩ := (isInf_iff f).mp h
  cases s with
  | true =>
    have hf : (Exact.ofFloat f).extended? = some ⊥ := by
      rw [Exact.ofFloat, hs]
      rfl
    left
    simp [lt_iff, le_iff, hf, hlow, Exact.extended?_ofInt, ExtendedRat.bot_lt_ofRat]
  | false =>
    have hf : (Exact.ofFloat f).extended? = some ⊤ := by
      rw [Exact.ofFloat, hs]
      rfl
    right
    simp [le_iff, hf, hhigh, Exact.extended?_ofInt]

theorem not_isNaN (hf : ofFloat f = .finite s m e) : ¬ f.isNaN = true := by
  rw [isNaN_iff, hf]
  simp

end Binary64
end ExprLang
