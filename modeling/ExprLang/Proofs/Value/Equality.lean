import Mathlib.Data.List.Forall2
import ExprLang.Proofs.Value.Comparison
import ExprLang.Proofs.Value.Pairing
import ExprLang.Proofs.Value.Structure

/-!
# Equality of values

The equality of the language is symmetric (`equals_symm`) and transitive (`equals_trans`), and a value equals itself
unless a not-a-number stands in it at some depth (`equals_self_iff`). Numbers are equal when they are the same exact
number (`equals_iff_of_isScalar`); lists and maps are equal when their parts are (`equals_list_iff`, `equals_map_iff`).
A value without a not-a-number is identical to itself as well (`identical_self`).
-/

namespace ExprLang

namespace Value

variable {a b c v w : Value} {x : Exact}

/-! ### Scalars -/

theorem isScalar_of_number? (h : v.number? = some x) : v.IsScalar := by
  cases v with
  | int | uint | float => exact ⟨rfl, rfl⟩
  | _ => simp [number?] at h

/-- Numbers are equal where their order says so. -/
theorem equals_iff_compare? (ha : a.kind.isNumeric = true) (hb : b.kind.isNumeric = true) :
    a.equals b = true ↔ a.compare? b = some .eq := by
  cases a with
  | int | uint | float => cases b <;> simp [equals, ha, hb]
  | _ => cases ha

/-- A scalar equals itself if it is not a number, and otherwise the values that are the same number. -/
theorem equals_iff_of_isScalar (ha : a.IsScalar) :
    a.equals b = true ↔ (a.number? = none ∧ a = b) ∨ ∃ x ≠ Exact.nan, a.number? = some x ∧ b.number? = some x := by
  cases a with
  | list | map => simp [IsScalar, list?, map?] at ha
  | int | uint | float =>
    by_cases hb : b.kind.isNumeric = true
    · rw [equals_iff_compare? rfl hb, compare?_eq_some_eq_iff_number? rfl hb]
      simp [number?]
    · cases b with
      | int | uint | float => exact absurd rfl hb
      | _ => simp [equals, number?, kind, Kind.isNumeric]
  | _ => cases b <;> simp [equals, number?, kind, Kind.isNumeric]

theorem equals_float_iff {f g : Float} : (float f).equals (float g) = true ↔ (f == g) = true := by
  rw [equals_iff_compare? rfl rfl, compare?_eq_some_eq_iff rfl rfl, Binary64.beq_iff]
  rfl

/-! ### Lists and maps -/

private theorem forall₂_mono {R S : Value → Value → Prop} {items items' : List Value} (h : List.Forall₂ R items items')
    (hRS : ∀ v ∈ items, ∀ w, R v w → S v w) : List.Forall₂ S items items' := by
  induction h with
  | nil => exact .nil
  | cons hvw _ ih =>
    have hv := hRS _ List.mem_cons_self _ hvw
    exact .cons hv (ih fun v hv => hRS v (List.mem_cons_of_mem _ hv))

private theorem forall₂_comp {R S : Value → Value → Prop} {items items' items'' : List Value}
    (h : List.Forall₂ R items items') (h' : List.Forall₂ S items' items'') :
    List.Forall₂ (fun v x => ∃ w, R v w ∧ S w x) items items'' := by
  induction h generalizing items'' with
  | nil =>
    cases h'
    exact .nil
  | cons hvw _ ih => cases h' with
    | cons hwx h' => exact .cons ⟨_, hvw, hwx⟩ (ih h')

theorem equals_list_iff {items items' : List Value} :
    (list items).equals (list items') = true ↔ List.Forall₂ (fun v w => v.equals w = true) items items' := by
  rw [equals]
  induction items generalizing items' with
  | nil => cases items' <;> simp [equalItems]
  | cons v vs ih => cases items' with
    | nil => simp [equalItems]
    | cons w ws => simp [equalItems, ih]

theorem equals_map_iff {m n : KeyMap Value} :
    (map m).equals (map n) = true ↔ KeyMap.Related (fun v w => v.equals w = true) m n := by
  rw [equals, Bool.and_eq_true, beq_iff_eq, List.all_eq_true, KeyMap.Related]
  refine and_congr_right fun _ => ⟨fun h k v hv => ?_, fun h i _ => ?_⟩
  · obtain ⟨i, rfl, rfl⟩ := KeyMap.get?_eq_some_iff.mp hv
    have hi := h i (List.mem_finRange i)
    split at hi
    · rename_i w hp
      obtain ⟨l, hl, hw⟩ := (KeyMap.partner?_eq_some_iff (List.get_mem _ i)).mp hp
      exact ⟨l, w, hl, hw, hi⟩
    · exact absurd hi (by simp)
  · obtain ⟨l, w, hl, hw, hvw⟩ := h _ _ (m.get?_get i)
    rw [(KeyMap.partner?_eq_some_iff (List.get_mem _ i)).mpr ⟨l, hl, hw⟩]
    exact hvw

theorem exists_of_list_equals {items : List Value} (h : (list items).equals b = true) : ∃ items', b = list items' := by
  cases b <;> simp [equals, kind, Kind.isNumeric] at h
  exact ⟨_, rfl⟩

theorem exists_of_map_equals {m : KeyMap Value} (h : (map m).equals b = true) : ∃ n, b = map n := by
  cases b <;> simp [equals, kind, Kind.isNumeric] at h
  exact ⟨_, rfl⟩

/-! ### Partial equivalence -/

theorem equals_symm (h : a.equals b = true) : b.equals a = true := by
  induction a using induction generalizing b with
  | scalar a ha =>
    rcases (equals_iff_of_isScalar ha).mp h with ⟨_, rfl⟩ | ⟨x, hx, hxa, hxb⟩
    · exact h
    · exact (equals_iff_of_isScalar (isScalar_of_number? hxb)).mpr (.inr ⟨x, hx, hxb, hxa⟩)
  | list items ih =>
    obtain ⟨items', rfl⟩ := exists_of_list_equals h
    rw [equals_list_iff] at h ⊢
    exact (forall₂_mono h fun v hv w => ih v hv).flip
  | map m ih =>
    obtain ⟨n, rfl⟩ := exists_of_map_equals h
    rw [equals_map_iff] at h ⊢
    exact (h.mono fun i w => ih i).flip

theorem equals_trans (hab : a.equals b = true) (hbc : b.equals c = true) : a.equals c = true := by
  induction a using induction generalizing b c with
  | scalar a ha =>
    rcases (equals_iff_of_isScalar ha).mp hab with ⟨_, rfl⟩ | ⟨x, hx, hxa, hxb⟩
    · exact hbc
    · rcases (equals_iff_of_isScalar (isScalar_of_number? hxb)).mp hbc with ⟨hn, _⟩ | ⟨y, _, hyb, hyc⟩
      · rw [hxb] at hn
        nomatch hn
      · -- both sides have the number of the value between them
        obtain rfl : x = y := Option.some.inj (hxb.symm.trans hyb)
        exact (equals_iff_of_isScalar ha).mpr (.inr ⟨x, hx, hxa, hyc⟩)
  | list items ih =>
    obtain ⟨items', rfl⟩ := exists_of_list_equals hab
    obtain ⟨items'', rfl⟩ := exists_of_list_equals hbc
    rw [equals_list_iff] at hab hbc ⊢
    exact forall₂_mono (forall₂_comp hab hbc) fun v hv x ⟨_, h, h'⟩ => ih v hv h h'
  | map m ih =>
    obtain ⟨n, rfl⟩ := exists_of_map_equals hab
    obtain ⟨p, rfl⟩ := exists_of_map_equals hbc
    rw [equals_map_iff] at hab hbc ⊢
    exact (hab.comp hbc).mono fun i w ⟨_, h, h'⟩ => ih i h h'

/-- No not-a-number stands in the value at any depth. -/
def IsNaNFree (v : Value) : Prop := ∀ f, Inside (float f) v → f.isNaN = false

private theorem isNaNFree_scalar (hv : v.IsScalar) : v.IsNaNFree ↔ v.number? ≠ some .nan := by
  constructor
  · intro h hn
    cases v with
    | float f =>
      have hf : ¬ f.isNaN = true := Bool.eq_false_iff.mp (h f .self)
      rw [Binary64.isNaN_iff, ← Exact.ofFloat_eq_nan_iff] at hf
      exact hf (Option.some.inj hn)
    | _ => simp [number?, Exact.ofInt] at hn
  · intro h f hf
    cases hf with
    | self =>
      rw [Bool.eq_false_iff, ne_eq, Binary64.isNaN_iff, ← Exact.ofFloat_eq_nan_iff]
      exact fun hn => h (congrArg some hn)
    | item | entry => simp [IsScalar, list?, map?] at hv

private theorem isNaNFree_list {items : List Value} : (list items).IsNaNFree ↔ ∀ v ∈ items, v.IsNaNFree := by
  constructor
  · exact fun h v hv f hf => h f (.item hv hf)
  · intro h f hf
    cases hf with
    | item hv hf => exact h _ hv f hf

private theorem isNaNFree_map {m : KeyMap Value} : (map m).IsNaNFree ↔ ∀ i, (m.value i).IsNaNFree := by
  constructor
  · exact fun h i f hf => h f (.entry i hf)
  · intro h f hf
    cases hf with
    | entry i hf => exact h i f hf

theorem equals_self_iff : a.equals a = true ↔ a.IsNaNFree := by
  induction a using induction with
  | scalar a ha =>
    rw [equals_iff_of_isScalar ha, isNaNFree_scalar ha]
    cases a.number? with
    | none => simp
    | some x => simp [eq_comm]
  | list items ih =>
    rw [equals_list_iff, isNaNFree_list, List.forall₂_same]
    exact forall₂_congr ih
  | map m ih =>
    rw [equals_map_iff, isNaNFree_map, KeyMap.related_self_iff]
    exact forall_congr' ih

private theorem identicalItems_self {items : List Value} (h : ∀ v ∈ items, v.identical v = true) :
    identicalItems items items = true := by
  induction items with
  | nil => rfl
  | cons v vs ih =>
    rw [identicalItems, Bool.and_eq_true]
    exact ⟨h v List.mem_cons_self, ih fun w hw => h w (List.mem_cons_of_mem _ hw)⟩

theorem identical_self (ha : a.IsNaNFree) : a.identical a = true := by
  induction a using induction with
  | scalar a hscalar =>
    have hself := equals_self_iff.mpr ha
    cases a with
    | int n => exact beq_self_eq_true n
    | uint n => exact beq_self_eq_true n
    | float f => exact equals_float_iff.mp hself
    | list items => simp [IsScalar, list?] at hscalar
    | map m => simp [IsScalar, map?] at hscalar
    | _ => exact hself
  | list items ih =>
    rw [identical]
    exact identicalItems_self fun v hmem => ih v hmem fun f hf => ha f (.item hmem hf)
  | map m ih =>
    rw [identical, dif_pos rfl, List.all_eq_true]
    exact fun i _ => ih i fun f hf => ha f (.entry i hf)

/-- The rational number that an integer or a finite double is. -/
def rational? : Value → Option Rat
  | int n => some n.toInt
  | uint n => some n.toNat
  | float f =>
    match Binary64.ofFloat f with
    | .finite negative m e => some ((if negative then -(m : Rat) else m) * 2 ^ e)
    | _ => none
  | _ => none

private theorem number?_of_rational? {q : Rat} (h : a.rational? = some q) :
    ∃ x : Dyadic, a.number? = some (.finite x) ∧ x.toRat = q := by
  cases a with
  | int n =>
    exact ⟨.ofInt n.toInt, rfl, (Dyadic.toRat_intCast _).trans (Option.some.inj h)⟩
  | uint n =>
    exact ⟨.ofInt n.toNat, rfl, (Dyadic.toRat_intCast _).trans (Option.some.inj h)⟩
  | float f =>
    rw [rational?] at h
    rw [number?, Exact.ofFloat]
    cases hf : Binary64.ofFloat f with
    | nan | infinite => simp [hf] at h
    | finite negative m e =>
      rw [hf] at h
      refine ⟨_, rfl, ?_⟩
      rw [Dyadic.toRat_ofIntWithPrec_eq_mul_two_pow, Int.neg_neg, ← Option.some.inj h]
      cases negative <;> simp
  | _ => simp [rational?] at h

/-- Numbers are equal, whatever their kinds, when they are the same rational number. -/
theorem equals_iff_of_rational? {p q : Rat} (ha : a.rational? = some p) (hb : b.rational? = some q) :
    a.equals b = true ↔ p = q := by
  obtain ⟨x, hx, rfl⟩ := number?_of_rational? ha
  obtain ⟨y, hy, rfl⟩ := number?_of_rational? hb
  rw [equals_iff_of_isScalar (isScalar_of_number? hx), hx, hy, Dyadic.toRat_inj]
  simp [eq_comm]

/-- Equality is a partial equivalence, reflexive just at the values without a not-a-number, and it is exact. -/
theorem equals_partial_equivalence :
    (∀ a b : Value, a.equals b = true → b.equals a = true) ∧
    (∀ a b c : Value, a.equals b = true → b.equals c = true → a.equals c = true) ∧
    (∀ a : Value, a.equals a = true ↔ ∀ f, Inside (float f) a → f.isNaN = false) ∧
    ∀ (a b : Value) (p q : Rat), a.rational? = some p → b.rational? = some q → (a.equals b = true ↔ p = q) :=
  ⟨fun _ _ => equals_symm, fun _ _ _ => equals_trans, fun _ => equals_self_iff, fun _ _ _ _ => equals_iff_of_rational?⟩

/-- Maps that hold a number under both kinds of keys, and maps whose keys are twins. -/
theorem equals_mixed_numbers :
    let a := list [ofEntries [(.int 1, int 1), (.uint 1, float 0.5)], ofEntries [(.int 2, float 0)]]
    let b := list [ofEntries [(.int 1, uint 1), (.uint 1, float 0.5)], ofEntries [(.uint 2, float (-0.0))]]
    let c := list [ofEntries [(.int 1, float 1), (.uint 1, float 0.5)], ofEntries [(.int 2, uint 0)]]
    a.equals b = true ∧ b.equals a = true ∧ b.equals c = true ∧ a.equals c = true := by
  intro a b c
  have hab : a.equals b = true := by decide +kernel
  have hbc : b.equals c = true := by decide +kernel
  exact ⟨hab, equals_partial_equivalence.1 a b hab, hbc, equals_partial_equivalence.2.1 a b c hab hbc⟩

end Value

end ExprLang
