import Mathlib.Data.List.Sort
import ExprLang.Proofs.Value.Equality

/-!
# Identity of values

Values are identical when they are equal and have the same kind at every position (`identical_iff_equals`). `SameKinds`
says the latter: lists are compared item by item, and maps key by key once their keys are the same. With the same keys
in both maps no key pairs with its twin, so the equality of maps then compares key by key as well
(`related_iff_of_keys`).
-/

namespace ExprLang

namespace KeyMap

variable {β : Type} {m n : KeyMap β} {R : β → β → Prop}

/-- Maps that have the same keys have them in the same order. -/
theorem keys_eq_iff : m.keys = n.keys ↔ ∀ k, k ∈ m.keys ↔ k ∈ n.keys := by
  have : Std.Irrefl fun k l : Key => k < l := ⟨Key.lt_irrefl⟩
  have : Std.Antisymm fun k l : Key => k < l := ⟨fun k l h h' => absurd (Key.lt_trans h h') (Key.lt_irrefl k)⟩
  constructor
  · intro h k
    rw [h]
  · exact List.Pairwise.eq_of_mem_iff m.ascending n.ascending

theorem get?_get_of_keys (h : m.keys = n.keys) (i : Fin m.keys.length) :
    n.get? (m.keys.get i) = some (n.value (i.cast (by rw [h]))) :=
  get?_eq_some_iff.mpr ⟨i.cast (by rw [h]), (List.get_of_eq h i).symm, rfl⟩

/-- In maps with the same keys each key pairs with itself. -/
theorem related_iff_of_keys (h : ∀ k, k ∈ m.keys ↔ k ∈ n.keys) :
    Related R m n ↔ ∀ k v w, m.get? k = some v → n.get? k = some w → R v w := by
  constructor
  · rintro ⟨-, hrelated⟩ k v w hv hw
    obtain ⟨l, w', ⟨hk, -, rfl | ⟨-, hn, -⟩⟩, hw', hR⟩ := hrelated k v hv
    · exact Option.some.inj (hw'.symm.trans hw) ▸ hR
    · exact absurd ((h k).mp hk) hn
  · intro hvalues
    refine ⟨congrArg List.length (keys_eq_iff.mpr h), fun k v hv => ?_⟩
    have hk := exists_get?_iff.mp ⟨v, hv⟩
    obtain ⟨w, hw⟩ := exists_get?_iff.mpr ((h k).mp hk)
    exact ⟨k, w, ⟨hk, (h k).mp hk, .inl rfl⟩, hw, hvalues k v w hv hw⟩

end KeyMap

namespace Value

variable {a b : Value} {items items' : List Value} {m n : KeyMap Value}

/-- The values have the same kind, and so have their parts: the items of lists one by one, and the values of maps with
the same keys key by key. -/
inductive SameKinds : Value → Value → Prop
  | scalar {a b : Value} (ha : a.IsScalar) (hkind : a.kind = b.kind) : SameKinds a b
  | list {items items' : List Value} (h : List.Forall₂ SameKinds items items') : SameKinds (list items) (list items')
  | map {m n : KeyMap Value} (hkeys : ∀ k, k ∈ m.keys ↔ k ∈ n.keys)
      (h : ∀ k v w, m.get? k = some v → n.get? k = some w → SameKinds v w) : SameKinds (map m) (map n)

/-! ### The parts of a value -/

theorem identical_list_iff :
    (list items).identical (list items') = true ↔ List.Forall₂ (fun v w => v.identical w = true) items items' := by
  rw [identical]
  induction items generalizing items' with
  | nil => cases items' <;> simp [identicalItems]
  | cons v vs ih => cases items' with
    | nil => simp [identicalItems]
    | cons w ws => simp [identicalItems, ih]

theorem identical_map_iff : (map m).identical (map n) = true ↔ (∀ k, k ∈ m.keys ↔ k ∈ n.keys) ∧
    ∀ k v w, m.get? k = some v → n.get? k = some w → v.identical w = true := by
  rw [identical, ← KeyMap.keys_eq_iff]
  by_cases h : m.keys = n.keys
  · rw [dif_pos h, List.all_eq_true, and_iff_right h]
    constructor
    · intro hall k v w hv hw
      obtain ⟨i, rfl, rfl⟩ := KeyMap.get?_eq_some_iff.mp hv
      rw [KeyMap.get?_get_of_keys h] at hw
      exact Option.some.inj hw ▸ hall i (List.mem_finRange i)
    · exact fun hvalues i _ => hvalues _ _ _ (m.get?_get i) (KeyMap.get?_get_of_keys h i)
  · simp [h]

theorem sameKinds_list_iff : SameKinds (list items) (list items') ↔ List.Forall₂ SameKinds items items' := by
  constructor
  · intro h
    cases h with
    | scalar ha => simp [IsScalar, list?] at ha
    | list h => exact h
  · exact .list

theorem sameKinds_map_iff : SameKinds (map m) (map n) ↔ (∀ k, k ∈ m.keys ↔ k ∈ n.keys) ∧
    ∀ k v w, m.get? k = some v → n.get? k = some w → SameKinds v w := by
  constructor
  · intro h
    cases h with
    | scalar ha => simp [IsScalar, map?] at ha
    | map hkeys h => exact ⟨hkeys, h⟩
  · exact fun h => .map h.1 h.2

theorem sameKinds_iff_of_isScalar (ha : a.IsScalar) : SameKinds a b ↔ a.kind = b.kind := by
  constructor
  · intro h
    cases h with
    | scalar _ hkind => exact hkind
    | list | map => rfl
  · exact .scalar ha

/-- Integers of one kind are the same number only when they are the same. -/
theorem identical_iff_of_isScalar (ha : a.IsScalar) : a.identical b = true ↔ a.equals b = true ∧ a.kind = b.kind := by
  have hint (i j : Int64) : (int i).equals (int j) = true ↔ i = j := by
    rw [equals_iff_of_rational? rfl rfl, Rat.intCast_inj, Int64.toInt_inj]
  have huint (i j : UInt64) : (uint i).equals (uint j) = true ↔ i = j := by
    rw [equals_iff_of_rational? rfl rfl, Rat.natCast_inj, UInt64.toNat_inj]
  cases a with
  | list | map => simp [IsScalar, list?, map?] at ha
  | int i => cases b <;> simp [identical, kind, hint]
  | uint i => cases b <;> simp [identical, kind, huint]
  | float f => cases b <;> simp [identical, kind, equals_float_iff]
  | _ => cases b <;> simp [identical, equals, kind, Kind.isNumeric]

/-! ### All values -/

private theorem forall₂_and_iff {R S T : Value → Value → Prop} (h : ∀ v ∈ items, ∀ w, R v w ↔ S v w ∧ T v w) :
    List.Forall₂ R items items' ↔ List.Forall₂ S items items' ∧ List.Forall₂ T items items' := by
  induction items generalizing items' with
  | nil => simp
  | cons v vs ih =>
    cases items' with
    | nil => simp
    | cons w ws =>
      rw [List.forall₂_cons, List.forall₂_cons, List.forall₂_cons, h v List.mem_cons_self w,
        ih fun u hu => h u (List.mem_cons_of_mem _ hu)]
      exact and_and_and_comm

/-- Values are identical exactly when they are equal and have the same kind at every position. -/
theorem identical_iff_equals (a b : Value) : a.identical b = true ↔ a.equals b = true ∧ SameKinds a b := by
  induction a using induction generalizing b with
  | scalar a ha => rw [identical_iff_of_isScalar ha, sameKinds_iff_of_isScalar ha]
  | list items ih =>
    cases b with
    | list items' =>
      rw [identical_list_iff, equals_list_iff, sameKinds_list_iff]
      exact forall₂_and_iff ih
    | _ => simp [identical, equals, kind, Kind.isNumeric]
  | map m ih =>
    cases b with
    | map n =>
      have hvalue {k : Key} {v : Value} (hv : m.get? k = some v) (w : Value) :
          v.identical w = true ↔ v.equals w = true ∧ SameKinds v w := by
        obtain ⟨i, -, rfl⟩ := KeyMap.get?_eq_some_iff.mp hv
        exact ih i w
      rw [identical_map_iff, equals_map_iff, sameKinds_map_iff, and_left_comm]
      refine and_congr_right fun hkeys => ?_
      -- with the same keys on both sides every key is its own partner, also for equality
      rw [KeyMap.related_iff_of_keys hkeys]
      constructor
      · exact fun h => ⟨fun k v w hv hw => ((hvalue hv w).mp (h k v w hv hw)).1,
          fun k v w hv hw => ((hvalue hv w).mp (h k v w hv hw)).2⟩
      · rintro ⟨hequals, hkinds⟩ k v w hv hw
        exact (hvalue hv w).mpr ⟨hequals k v w hv hw, hkinds k v w hv hw⟩
    | _ => simp [identical, equals, kind, Kind.isNumeric]

end Value

end ExprLang
