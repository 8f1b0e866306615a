import Mathlib.Data.List.Induction
import ExprLang.Proofs.Value.Entries
import ExprLang.Proofs.Value.Identity
import ExprLang.Proofs.Value.Lookup

/-!
# Entries of maps that are made of lists

A map is known by what it gives for each key (`eq_of_get?`). The map that is made of a list of entries gives for a key
the value of its last entry there (`get?_ofList`), and this is all that the map keeps of the list: neither the order of
entries with different keys (`ofList_eq_of_perm`) nor an entry whose key comes again (`ofList_append_cons`) has a part
in it.
-/

namespace ExprLang.KeyMap

variable {β : Type} {k l : Key} {v : β} {e : Key × β} {es es' before after : List (Key × β)} {m n : KeyMap β}

/-- The value of the last entry with the key. -/
def lastValue? (k : Key) (es : List (Key × β)) : Option β := (es.reverse.find? fun e => e.1 = k).map Prod.snd

theorem lastValue?_append :
    lastValue? k (before ++ after) = (lastValue? k after <|> lastValue? k before) := by
  rw [lastValue?, List.reverse_append, List.find?_append]
  cases h : after.reverse.find? fun e => e.1 = k <;> simp [lastValue?, h]

theorem lastValue?_singleton : lastValue? k [e] = if e.1 = k then some e.2 else none := by
  by_cases h : e.1 = k <;> simp [lastValue?, h]

theorem lastValue?_concat : lastValue? k (es ++ [e]) = if e.1 = k then some e.2 else lastValue? k es := by
  rw [lastValue?_append, lastValue?_singleton]
  split <;> rfl

theorem lastValue?_eq_none_iff : lastValue? k es = none ↔ k ∉ es.map Prod.fst := by
  rw [lastValue?, Option.map_eq_none_iff, List.find?_eq_none]
  constructor
  · intro h hk
    obtain ⟨e, he, rfl⟩ := List.mem_map.mp hk
    exact h e (List.mem_reverse.mpr he) (decide_eq_true rfl)
  · intro h e he hk
    exact h (List.mem_map.mpr ⟨e, List.mem_reverse.mp he, of_decide_eq_true hk⟩)

/-- Where no key comes twice, each entry is the last with its key. -/
theorem lastValue?_eq_some_iff_mem (h : (es.map Prod.fst).Nodup) : lastValue? k es = some v ↔ (k, v) ∈ es := by
  induction es using List.reverseRecOn with
  | nil => simp [lastValue?]
  | append_singleton es e ih =>
    rw [List.map_append, List.map_singleton, List.nodup_append_comm, List.singleton_append, List.nodup_cons] at h
    obtain ⟨hlast, hes⟩ := h
    obtain ⟨l, w⟩ := e
    rw [lastValue?_concat, List.mem_append, List.mem_singleton, Prod.mk.injEq]
    by_cases hkey : l = k
    · subst hkey
      have hnot : (l, v) ∉ es := fun hmem => hlast (List.mem_map.mpr ⟨_, hmem, rfl⟩)
      simp [hnot, eq_comm]
    · simp [hkey, Ne.symm hkey, ih hes]

/-! ### Insertion -/

private theorem find?_key_cons :
    (e :: es).find? (fun e => e.1 = l) = if e.1 = l then some e else es.find? fun e => e.1 = l := by
  by_cases h : e.1 = l <;> simp [h]

/-- An insertion changes what is found for its key and for no other. -/
theorem find?_insertEntry : (insertEntry k v es).find? (fun e => e.1 = l) =
    if k = l then some (k, v) else es.find? fun e => e.1 = l := by
  induction es with
  | nil => exact find?_key_cons
  | cons e es ih =>
    rw [insertEntry]
    split
    · exact find?_key_cons
    · split
      · rename_i heq
        rw [find?_key_cons, find?_key_cons, ← heq]
        split <;> rfl
      · rename_i hne
        rw [find?_key_cons, find?_key_cons, ih]
        by_cases he : e.1 = l
        · rw [if_pos he, if_neg fun hk => hne (hk.trans he.symm), if_pos he]
        · rw [if_neg he, if_neg he]

theorem get?_ofList (es : List (Key × β)) (k : Key) : (ofList es).get? k = lastValue? k es := by
  rw [get?, ofList, entries_ofAscending]
  induction es using List.reverseRecOn with
  | nil => rfl
  | append_singleton es e ih =>
    rw [sorted] at ih ⊢
    rw [List.foldl_append, List.foldl_cons, List.foldl_nil, find?_insertEntry, lastValue?_concat]
    split
    · rfl
    · exact ih

/-! ### Equal maps -/

/-- Maps that give the same for each key are equal. -/
theorem eq_of_get? (h : ∀ k, m.get? k = n.get? k) : m = n := by
  have hkeys : m.keys = n.keys := by
    rw [keys_eq_iff]
    intro k
    rw [← exists_get?_iff, ← exists_get?_iff, h]
  have hvalues (i : Fin m.keys.length) : m.value i = n.value (i.cast (by rw [hkeys])) := by
    have hget := get?_get_of_keys hkeys i
    rw [← h, m.get?_get] at hget
    exact Option.some.inj hget
  obtain ⟨keys, _, value⟩ := m
  obtain ⟨keys', _, value'⟩ := n
  obtain rfl : keys = keys' := hkeys
  obtain rfl : value = value' := funext hvalues
  rfl

theorem ofList_eq_iff : ofList es = ofList es' ↔ ∀ k, lastValue? k es = lastValue? k es' := by
  constructor
  · intro h k
    rw [← get?_ofList, ← get?_ofList, h]
  · intro h
    refine eq_of_get? fun k => ?_
    rw [get?_ofList, get?_ofList, h]

/-- The order of entries with different keys has no part in the map. -/
theorem ofList_eq_of_perm (h : es.Perm es') (hes : (es.map Prod.fst).Nodup) : ofList es = ofList es' := by
  have hes' : (es'.map Prod.fst).Nodup := (h.map Prod.fst).nodup hes
  refine ofList_eq_iff.mpr fun k => Option.ext fun v => ?_
  rw [lastValue?_eq_some_iff_mem hes, lastValue?_eq_some_iff_mem hes', h.mem_iff]

/-- An entry whose key comes again has no part in the map. -/
theorem ofList_append_cons (h : e.1 ∈ after.map Prod.fst) :
    ofList (before ++ e :: after) = ofList (before ++ after) := by
  refine ofList_eq_iff.mpr fun k => ?_
  rw [← List.singleton_append, lastValue?_append, lastValue?_append, lastValue?_append, lastValue?_singleton]
  by_cases hk : e.1 = k
  · subst hk
    obtain ⟨w, hw⟩ := Option.ne_none_iff_exists'.mp fun hnone => lastValue?_eq_none_iff.mp hnone h
    simp [hw]
  · simp [hk]

end ExprLang.KeyMap
