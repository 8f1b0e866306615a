import Mathlib.Data.List.Induction
import Mathlib.Data.List.OfFn
import ExprLang.Value.KeyMap

/-!
# Maps and their entries

A map is known by its entries (`eq_of_entries`), and it is the map that is made of them (`ofList_entries`): entries that
ascend stay as they are when they are inserted one after the other.
-/

namespace ExprLang.KeyMap

variable {β : Type} {k : Key} {v : β} {es : List (Key × β)} {m n : KeyMap β}

theorem entries_eq_map (m : KeyMap β) :
    m.entries = (List.finRange m.keys.length).map fun i => (m.keys.get i, m.value i) := by
  apply List.ext_getElem
  · simp [entries]
  · intro i h₁ h₂
    simp [entries]

/-- Maps with the same entries are equal. -/
theorem eq_of_entries (h : m.entries = n.entries) : m = n := by
  have hkeys : m.keys = n.keys := by rw [← keys_entries, ← keys_entries, h]
  obtain ⟨keys, hm, value⟩ := m
  obtain ⟨keys', hn, value'⟩ := n
  obtain rfl : keys = keys' := hkeys
  have hvalues := congrArg (List.map Prod.snd) h
  rw [entries, entries, List.map_snd_zip (by simp), List.map_snd_zip (by simp)] at hvalues
  obtain rfl : value = value' := List.ofFn_injective hvalues
  rfl

theorem insertEntry_last (h : ∀ l ∈ es.map Prod.fst, l < k) : insertEntry k v es = es ++ [(k, v)] := by
  induction es with
  | nil => rfl
  | cons e es ih =>
    have hlt := h e.1 (by simp)
    have hnot : ¬ k < e.1 := fun hk => Key.lt_irrefl k (Key.lt_trans hk hlt)
    have hne : k ≠ e.1 := by
      rintro rfl
      exact Key.lt_irrefl _ hlt
    rw [insertEntry, if_neg hnot, if_neg hne, ih fun l hl => h l (List.mem_cons_of_mem _ hl), List.cons_append]

/-- Entries with ascending keys are kept as they are. -/
theorem sorted_of_ascending (h : (es.map Prod.fst).Pairwise (· < ·)) : sorted es = es := by
  induction es using List.reverseRecOn with
  | nil => rfl
  | append_singleton es e ih =>
    rw [List.map_append, List.pairwise_append] at h
    obtain ⟨hes, _, hlast⟩ := h
    have := ih hes
    rw [sorted] at this ⊢
    rw [List.foldl_append, this, List.foldl_cons, List.foldl_nil,
      insertEntry_last fun l hl => hlast l hl e.1 (List.mem_singleton_self _)]

theorem ofList_entries (m : KeyMap β) : ofList m.entries = m := by
  apply eq_of_entries
  rw [ofList, entries_ofAscending, sorted_of_ascending]
  rw [keys_entries]
  exact m.ascending

end ExprLang.KeyMap
