import Mathlib.Data.List.Nodup
import ExprLang.Value.KeyMap

/-!
# Looking up keys

`get?` finds the value that stands with a key: since the keys of a map ascend, a key occurs once (`nodup_keys`), and the
values found are those at the positions of the key (`get?_eq_some_iff`).
-/

namespace ExprLang.KeyMap

variable {β : Type} {m : KeyMap β} {k : Key} {v : β}

theorem nodup_keys (m : KeyMap β) : m.keys.Nodup := by
  refine m.ascending.imp fun h e => ?_
  rw [e] at h
  exact Key.lt_irrefl _ h

theorem mem_entries : (k, v) ∈ m.entries ↔ ∃ i, m.keys.get i = k ∧ m.value i = v := by
  rw [List.mem_iff_getElem]
  constructor
  · rintro ⟨i, hi, he⟩
    have hk : i < m.keys.length := by
      simpa [entries] using hi
    refine ⟨⟨i, hk⟩, ?_⟩
    simpa [entries] using he
  · rintro ⟨i, rfl, rfl⟩
    exact ⟨i, by simp [entries], by simp [entries]⟩

theorem get?_eq_some_iff : m.get? k = some v ↔ ∃ i, m.keys.get i = k ∧ m.value i = v := by
  rw [← mem_entries, get?, Option.map_eq_some_iff]
  constructor
  · rintro ⟨⟨l, w⟩, he, rfl⟩
    have hl : l = k := by simpa using List.find?_some he
    exact hl ▸ List.mem_of_find?_eq_some he
  · intro h
    obtain ⟨⟨l, w⟩, he⟩ : ∃ e, m.entries.find? (fun e => e.1 = k) = some e := by
      rw [← Option.isSome_iff_exists, List.find?_isSome]
      exact ⟨(k, v), h, by simp⟩
    have hl : l = k := by simpa using List.find?_some he
    subst hl
    obtain ⟨i, hi, rfl⟩ := mem_entries.mp h
    obtain ⟨j, hj, rfl⟩ := mem_entries.mp (List.mem_of_find?_eq_some he)
    have : j = i := List.nodup_iff_injective_get.mp m.nodup_keys (hj.trans hi.symm)
    exact ⟨_, he, by rw [this]⟩

theorem get?_get (m : KeyMap β) (i : Fin m.keys.length) : m.get? (m.keys.get i) = some (m.value i) :=
  get?_eq_some_iff.mpr ⟨i, rfl, rfl⟩

theorem exists_get?_iff : (∃ v, m.get? k = some v) ↔ k ∈ m.keys := by
  rw [List.mem_iff_get]
  constructor
  · rintro ⟨v, hv⟩
    obtain ⟨i, hi, _⟩ := get?_eq_some_iff.mp hv
    exact ⟨i, hi⟩
  · rintro ⟨i, rfl⟩
    exact ⟨_, m.get?_get i⟩

theorem get?_eq_none_iff : m.get? k = none ↔ k ∉ m.keys := by
  rw [← exists_get?_iff, Option.eq_none_iff_forall_ne_some]
  simp

end ExprLang.KeyMap
