import ExprLang.Proofs.Value.Equality

/-!
# The order of numbers

Since numbers of all kinds are ordered as the rational numbers and infinities that they are, they are in one total
preorder. Its equivalence is the equality of the language.
-/

namespace ExprLang.Value

open ExtendedRat (ofRat)

variable {a b c : Value}

/-- A number that is not the double not-a-number. -/
def IsNumber (v : Value) : Prop := v.kind.isNumeric = true ∧ ¬ ∃ f, v = float f ∧ f.isNaN = true

/-- The first value is at most the second. -/
def AtMost (a b : Value) : Prop := a.compare? b = some .lt ∨ a.compare? b = some .eq

private theorem exists_extended? (ha : a.IsNumber) : ∃ p, a.extended? = some p :=
  Option.ne_none_iff_exists'.mp (mt (extended?_eq_none_iff ha.1).mp ha.2)

private theorem atMost_iff {p q : ExtendedRat} (ha : a.IsNumber) (hb : b.IsNumber) (hp : a.extended? = some p)
    (hq : b.extended? = some q) : a.AtMost b ↔ p ≤ q := by
  rw [AtMost, compare?_eq ha.1 hb.1, hp, hq, Option.bind_some, Option.map_some, Option.some_inj, Option.some_inj,
    cmp_eq_lt_iff, cmp_eq_eq_iff, le_iff_lt_or_eq]

/-- Numbers of all three kinds are ordered as the rational numbers and infinities that they are, and only not-a-number
has no order. So the numbers are in one total preorder, whose equivalence is to be the same number. -/
theorem compare?_numbers :
    (∀ a b : Value, a.kind.isNumeric = true → b.kind.isNumeric = true →
      a.compare? b = a.extended?.bind fun p => b.extended?.map fun q => cmp p q) ∧
    (∀ a : Value, a.kind.isNumeric = true → (a.extended? = none ↔ ∃ f, a = float f ∧ f.isNaN = true)) ∧
    (∀ a b : Value, a.IsNumber → b.IsNumber → a.AtMost b ∨ b.AtMost a) ∧
    (∀ a b c : Value, a.IsNumber → b.IsNumber → c.IsNumber → a.AtMost b → b.AtMost c → a.AtMost c) ∧
    ∀ a b : Value, a.IsNumber → b.IsNumber → (a.AtMost b ∧ b.AtMost a ↔ a.equals b = true) := by
  refine ⟨fun a b => compare?_eq, fun a => extended?_eq_none_iff, fun a b ha hb => ?_, fun a b c ha hb hc => ?_,
    fun a b ha hb => ?_⟩
  · obtain ⟨p, hp⟩ := exists_extended? ha
    obtain ⟨q, hq⟩ := exists_extended? hb
    rw [atMost_iff ha hb hp hq, atMost_iff hb ha hq hp]
    exact le_total p q
  · obtain ⟨p, hp⟩ := exists_extended? ha
    obtain ⟨q, hq⟩ := exists_extended? hb
    obtain ⟨r, hr⟩ := exists_extended? hc
    rw [atMost_iff ha hb hp hq, atMost_iff hb hc hq hr, atMost_iff ha hc hp hr]
    exact le_trans
  · obtain ⟨p, hp⟩ := exists_extended? ha
    obtain ⟨q, hq⟩ := exists_extended? hb
    rw [atMost_iff ha hb hp hq, atMost_iff hb ha hq hp, ← le_antisymm_iff, equals_iff_compare? ha.1 hb.1,
      compare?_eq_some_eq_iff ha.1 hb.1, hp, hq]
    simp [eq_comm]

/-- The neighbours of the greatest integer up to which doubles have all integers, in three kinds. -/
theorem compare?_numbers_mixed :
    let f := float 9007199254740992
    let i := int 9007199254740993
    let u := uint 9007199254740993
    f.IsNumber ∧ i.IsNumber ∧ u.IsNumber ∧ i.compare? f = some .gt ∧ f.AtMost i ∧ i.AtMost u ∧ u.AtMost i ∧
      f.AtMost u ∧ i.equals u = true ∧ (float Float.nan).extended? = none := by
  intro f i u
  obtain ⟨hcompare, hnone, htotal, htrans, hequal⟩ := compare?_numbers
  have hf : f.IsNumber := by
    refine ⟨rfl, ?_⟩
    rintro ⟨g, h, hnan⟩
    rw [← Value.float.inj h] at hnan
    exact absurd hnan (by decide +kernel)
  have hi : i.IsNumber := by
    refine ⟨rfl, ?_⟩
    rintro ⟨g, h, -⟩
    injection h
  have hu : u.IsNumber := by
    refine ⟨rfl, ?_⟩
    rintro ⟨g, h, -⟩
    injection h
  have hplace : f.extended? = some (ofRat 9007199254740992) := by
    have hexact : Exact.ofFloat 9007199254740992 = .ofInt 9007199254740992 := by decide +kernel
    rw [extended?_float, hexact, Exact.extended?_ofInt]
    norm_num
  have hgt : i.compare? f = some .gt := by
    rw [hcompare i f rfl rfl, extended?_int, hplace, Option.bind_some, Option.map_some, ExtendedRat.cmp_ofRat,
      (cmp_eq_gt_iff _ _).mpr]
    have : Int64.toInt 9007199254740993 = 9007199254740993 := rfl
    rw [this]
    norm_num
  have hfi : f.AtMost i := by
    refine (htotal f i hf hi).resolve_right fun h => ?_
    rw [AtMost, hgt] at h
    simp at h
  have hiu : i.equals u = true := by decide +kernel
  obtain ⟨hle, hge⟩ := (hequal i u hi hu).mpr hiu
  exact ⟨hf, hi, hu, hgt, hfi, hle, hge, htrans f i u hf hi hu hfi hle, hiu,
    (hnone (float Float.nan) rfl).mpr ⟨Float.nan, rfl, by decide +kernel⟩⟩

end ExprLang.Value
