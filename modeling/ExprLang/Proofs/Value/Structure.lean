import ExprLang.Value.Basic

/-!
# The structure of values

Scalars are the values that hold no others. A value of another kind is a list or a map, and what is true of it follows
from what is true of its items or of the values of its entries (`induction`). `Inside` is the relation between a value
and those that hold it at any depth, itself among them; what holds of all floats inside a value can be checked, since
`floats` lists them.
-/

namespace ExprLang.Value

/-- A value that is neither a list nor a map. -/
def IsScalar (v : Value) : Prop := v.list? = none ∧ v.map? = none

mutual

/-- Induction over the items of lists and the values of maps. -/
theorem induction {P : Value → Prop} (scalar : ∀ v, v.IsScalar → P v)
    (list : ∀ items, (∀ v ∈ items, P v) → P (.list items))
    (map : ∀ m : KeyMap Value, (∀ i, P (m.value i)) → P (.map m)) : ∀ v, P v
  | .null | .bool _ | .int _ | .uint _ | .float _ | .string _ | .bytes _ => scalar _ ⟨rfl, rfl⟩
  | .list items => list items (induction_items scalar list map items)
  | .map m => map m fun i => induction scalar list map (m.value i)
  termination_by structural v => v

private theorem induction_items {P : Value → Prop} (scalar : ∀ v, v.IsScalar → P v)
    (list : ∀ items, (∀ v ∈ items, P v) → P (.list items))
    (map : ∀ m : KeyMap Value, (∀ i, P (m.value i)) → P (.map m)) : ∀ items : List Value, ∀ v ∈ items, P v
  | [], _, hv => nomatch hv
  | w :: ws, v, hv =>
    (List.mem_cons.mp hv).elim (fun h => h ▸ induction scalar list map w) (induction_items scalar list map ws v)
  termination_by structural items => items

end

/-- The first value is the second or stands in it at some depth. -/
inductive Inside (v : Value) : Value → Prop where
  | self : Inside v v
  | item {w : Value} {items : List Value} : w ∈ items → Inside v w → Inside v (list items)
  | entry {m : KeyMap Value} (i : Fin m.keys.length) : Inside v (m.value i) → Inside v (map m)

variable {v : Value} {items : List Value} {m : KeyMap Value} {P : Float → Prop}

/-! ### Floats -/

mutual

/-- The floats in a value at any depth. -/
def floats : Value → List Float
  | float f => [f]
  | list items => itemFloats items
  | map m => (List.finRange m.keys.length).flatMap fun i => (m.value i).floats
  | _ => []
  termination_by structural v => v

/-- The floats in the items of a list. -/
def itemFloats : List Value → List Float
  | [] => []
  | v :: vs => v.floats ++ itemFloats vs
  termination_by structural vs => vs

end

theorem itemFloats_eq (items : List Value) : itemFloats items = items.flatMap floats := by
  induction items with
  | nil => rfl
  | cons v vs ih => rw [itemFloats, ih, List.flatMap_cons]

theorem mem_floats {f : Float} : f ∈ v.floats ↔ Inside (float f) v := by
  induction v using induction with
  | scalar v hv =>
    constructor
    · intro h
      cases v with
      | float g =>
        obtain rfl := List.mem_singleton.mp h
        exact .self
      | list items => simp [IsScalar, list?] at hv
      | map m => simp [IsScalar, map?] at hv
      | _ => nomatch h
    · intro h
      cases h with
      | self => exact List.mem_singleton_self f
      | item | entry => simp [IsScalar, list?, map?] at hv
  | list items ih =>
    rw [floats, itemFloats_eq, List.mem_flatMap]
    constructor
    · rintro ⟨v, hv, hf⟩
      exact .item hv ((ih v hv).mp hf)
    · intro h
      cases h with
      | item hv hf => exact ⟨_, hv, (ih _ hv).mpr hf⟩
  | map m ih =>
    rw [floats, List.mem_flatMap]
    constructor
    · rintro ⟨i, _, hf⟩
      exact .entry i ((ih i).mp hf)
    · intro h
      cases h with
      | entry i hf => exact ⟨i, List.mem_finRange i, (ih i).mpr hf⟩

/-- What holds of all floats in a value can be checked. -/
instance [DecidablePred P] : Decidable (∀ f, Inside (float f) v → P f) :=
  decidable_of_iff (∀ f ∈ v.floats, P f) (by simp only [mem_floats])

end ExprLang.Value
