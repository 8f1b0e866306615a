import Mathlib.Data.Fintype.EquivFin
import ExprLang.Proofs.Value.Lookup

/-!
# Pairs of keys

The equality of maps pairs each key of the one with a key of the other: the same key, or the twin when neither map holds
a number under both kinds of keys. `Pairs` says so symmetrically, and a key pairs with one key at most
(`Pairs.unique`), so that in maps of one size all keys of both pair (`pairOff_of_size_eq`). Pairs compose
(`Pairs.trans`), but only in maps all of whose keys pair.

`Related R` lifts a relation of values along the pairs. It is reflexive, symmetric and transitive as far as `R` is.
-/

namespace ExprLang

namespace Key

variable {k l : Key}

private theorem zero_le_toInt64_iff (n : UInt64) : 0 ≤ n.toInt64 ↔ n ≤ Int64.maxValue.toUInt64 := by
  have hmax : Int64.maxValue.toUInt64.toNat = 2 ^ 63 - 1 := by decide
  have hn : n.toInt64.toInt = if 2 * n.toNat < 2 ^ 64 then (n.toNat : Int) else n.toNat - (2 ^ 64 : Nat) :=
    n.toBitVec.toInt_eq_toNat_cond
  have := n.toNat_lt
  rw [Int64.le_iff_toInt_le, UInt64.le_iff_toNat_le, hmax, hn, Int64.toInt_zero]
  split <;> omega

private theorem twin?_of_twin? (h : k.twin? = some l) : l.twin? = some k := by
  cases k with
  | bool | string => simp [twin?] at h
  | int n =>
    obtain ⟨hn, rfl⟩ : 0 ≤ n ∧ uint n.toUInt64 = l := by simpa [twin?] using h
    have := zero_le_toInt64_iff n.toUInt64
    rw [Int64.toInt64_toUInt64] at this
    rw [twin?, if_pos (this.mp hn), Int64.toInt64_toUInt64]
  | uint n =>
    obtain ⟨hn, rfl⟩ : n ≤ Int64.maxValue.toUInt64 ∧ int n.toInt64 = l := by simpa [twin?] using h
    rw [twin?, if_pos ((zero_le_toInt64_iff n).mpr hn), UInt64.toUInt64_toInt64]

theorem twin?_comm : k.twin? = some l ↔ l.twin? = some k := ⟨twin?_of_twin?, twin?_of_twin?⟩

end Key

namespace KeyMap

variable {β : Type} {a b c : KeyMap β} {k l p : Key} {v : β} {R S : β → β → Prop}

/-- A key of `a` and a key of `b` that pair: the same key, or twins of which neither map holds both. -/
def Pairs (a b : KeyMap β) (k l : Key) : Prop :=
  k ∈ a.keys ∧ l ∈ b.keys ∧ (k = l ∨ k.twin? = some l ∧ k ∉ b.keys ∧ l ∉ a.keys)

theorem partner?_eq_some_iff (hk : k ∈ a.keys) :
    a.partner? b k = some v ↔ ∃ l, Pairs a b k l ∧ b.get? l = some v := by
  by_cases hb : k ∈ b.keys
  · obtain ⟨w, hw⟩ := exists_get?_iff.mpr hb
    have hp : a.partner? b k = b.get? k := by simp [partner?, hw]
    rw [hp]
    constructor
    · exact fun h => ⟨k, ⟨hk, hb, .inl rfl⟩, h⟩
    · rintro ⟨l, ⟨_, _, rfl | ⟨_, hn, _⟩⟩, h⟩
      · exact h
      · exact absurd hb hn
  · have hp : a.partner? b k = (k.twin?.filter fun t => !a.contains t).bind b.get? := by
      simp [partner?, get?_eq_none_iff.mpr hb]
    simp only [hp, Option.bind_eq_some_iff, Option.filter_eq_some_iff, contains, Bool.not_eq_true',
      decide_eq_false_iff_not]
    constructor
    · rintro ⟨l, ⟨ht, ha⟩, h⟩
      exact ⟨l, ⟨hk, exists_get?_iff.mp ⟨v, h⟩, .inr ⟨ht, hb, ha⟩⟩, h⟩
    · rintro ⟨l, ⟨_, hl, rfl | ⟨ht, _, ha⟩⟩, h⟩
      · exact absurd hl hb
      · exact ⟨l, ⟨ht, ha⟩, h⟩

theorem Pairs.symm (h : Pairs a b k l) : Pairs b a l k := by
  obtain ⟨hk, hl, rfl | ⟨ht, hb, ha⟩⟩ := h
  · exact ⟨hl, hk, .inl rfl⟩
  · exact ⟨hl, hk, .inr ⟨Key.twin?_comm.mp ht, ha, hb⟩⟩

/-- A key pairs with one key at most. -/
theorem Pairs.unique (h : Pairs a b k l) (h' : Pairs a b k p) : l = p := by
  obtain ⟨_, hl, rfl | ⟨ht, hb, _⟩⟩ := h
  · obtain ⟨_, _, rfl | ⟨_, hb, _⟩⟩ := h'
    · rfl
    · exact absurd hl hb
  · obtain ⟨_, hp, rfl | ⟨ht', _⟩⟩ := h'
    · exact absurd hp hb
    · exact Option.some.inj (ht.symm.trans ht')

/-- Each key of each map pairs with a key of the other. -/
def PairOff (a b : KeyMap β) : Prop := (∀ k ∈ a.keys, ∃ l, Pairs a b k l) ∧ ∀ l ∈ b.keys, ∃ k, Pairs a b k l

/-- Among maps of one size it is enough that the keys of one pair: by `Pairs.unique` in both directions they pair with
as many keys of the other. -/
theorem pairOff_of_size_eq (hs : a.size = b.size) (h : ∀ k ∈ a.keys, ∃ l, Pairs a b k l) : PairOff a b := by
  refine ⟨h, fun l hl => ?_⟩
  have key (i : Fin a.size) : ∃ j : Fin b.size, Pairs a b (a.keys.get i) (b.keys.get j) := by
    obtain ⟨l, hp⟩ := h _ (List.get_mem a.keys i)
    obtain ⟨j, rfl⟩ := List.mem_iff_get.mp hp.2.1
    exact ⟨j, hp⟩
  choose f hf using key
  have hinj : Function.Injective f := by
    intro i i' hi
    have h₁ := (hf i).symm
    have h₂ := (hf i').symm
    rw [hi] at h₁
    exact List.nodup_iff_injective_get.mp a.nodup_keys (h₁.unique h₂)
  have hsurj : Function.Surjective f :=
    ((Fintype.bijective_iff_injective_and_card f).mpr ⟨hinj, by simpa using hs⟩).2
  obtain ⟨j, rfl⟩ := List.mem_iff_get.mp hl
  obtain ⟨i, rfl⟩ := hsurj j
  exact ⟨_, hf i⟩

theorem PairOff.symm (h : PairOff a b) : PairOff b a :=
  ⟨fun l hl => (h.2 l hl).imp fun _ => Pairs.symm, fun k hk => (h.1 k hk).imp fun _ => Pairs.symm⟩

theorem Pairs.trans (hab : PairOff a b) (hbc : PairOff b c) (h : Pairs a b k l) (h' : Pairs b c l p) :
    Pairs a c k p := by
  obtain ⟨hk, hl, rfl | ⟨ht, hkb, hla⟩⟩ := h
  · obtain ⟨_, hp, rfl | ⟨ht', hkc, hpb⟩⟩ := h'
    · exact ⟨hk, hp, .inl rfl⟩
    · -- were `p` a key of `a`, it would pair with its twin `k`, which `a` holds
      refine ⟨hk, hp, .inr ⟨ht', hkc, fun hpa => ?_⟩⟩
      obtain ⟨q, _, hq, rfl | ⟨hpq, _, hqa⟩⟩ := hab.1 p hpa
      · exact hpb hq
      · rw [Key.twin?_comm.mp ht'] at hpq
        exact hqa (Option.some.inj hpq ▸ hk)
  · obtain ⟨_, hp, rfl | ⟨ht', hlc, hpb⟩⟩ := h'
    · -- were `k` a key of `c`, it would pair with its twin `l`, which `c` holds
      refine ⟨hk, hp, .inr ⟨ht, fun hkc => ?_, hla⟩⟩
      obtain ⟨q, hq, _, rfl | ⟨hqk, hqc, _⟩⟩ := hbc.2 k hkc
      · exact hkb hq
      · rw [Key.twin?_comm, ht] at hqk
        exact hqc (Option.some.inj hqk ▸ hp)
    · rw [Key.twin?_comm.mp ht] at ht'
      exact ⟨hk, hp, .inl (Option.some.inj ht')⟩

/-- Maps of one size in which each entry of `a` pairs with an entry of `b` whose value is related to its own. -/
def Related (R : β → β → Prop) (a b : KeyMap β) : Prop :=
  a.size = b.size ∧ ∀ k v, a.get? k = some v → ∃ l w, Pairs a b k l ∧ b.get? l = some w ∧ R v w

theorem Related.pairOff (h : Related R a b) : PairOff a b := by
  refine pairOff_of_size_eq h.1 fun k hk => ?_
  obtain ⟨v, hv⟩ := exists_get?_iff.mpr hk
  obtain ⟨l, _, hp, _⟩ := h.2 k v hv
  exact ⟨l, hp⟩

theorem Related.mono (hRS : ∀ i w, R (a.value i) w → S (a.value i) w) (h : Related R a b) : Related S a b := by
  refine ⟨h.1, fun k v hv => ?_⟩
  obtain ⟨l, w, hp, hw, hR⟩ := h.2 k v hv
  obtain ⟨i, _, rfl⟩ := get?_eq_some_iff.mp hv
  exact ⟨l, w, hp, hw, hRS i w hR⟩

theorem Related.flip (h : Related R a b) : Related (fun w v => R v w) b a := by
  refine ⟨h.1.symm, fun l w hw => ?_⟩
  obtain ⟨k, hp⟩ := h.pairOff.2 l (exists_get?_iff.mp ⟨w, hw⟩)
  obtain ⟨v, hv⟩ := exists_get?_iff.mpr hp.1
  obtain ⟨l', w', hp', hw', hR⟩ := h.2 k v hv
  obtain rfl := hp.unique hp'
  obtain rfl : w = w' := Option.some.inj (hw.symm.trans hw')
  exact ⟨k, v, hp.symm, hv, hR⟩

theorem Related.comp (h : Related R a b) (h' : Related S b c) :
    Related (fun v x => ∃ w, R v w ∧ S w x) a c := by
  refine ⟨h.1.trans h'.1, fun k v hv => ?_⟩
  obtain ⟨l, w, hp, hw, hR⟩ := h.2 k v hv
  obtain ⟨p, x, hp', hx, hS⟩ := h'.2 l w hw
  exact ⟨p, x, hp.trans h.pairOff h'.pairOff hp', hx, w, hR, hS⟩

theorem related_self_iff : Related R a a ↔ ∀ i, R (a.value i) (a.value i) := by
  constructor
  · intro h i
    obtain ⟨l, w, hp, hw, hR⟩ := h.2 _ _ (a.get?_get i)
    have hk := List.get_mem a.keys i
    obtain rfl := hp.unique ⟨hk, hk, .inl rfl⟩
    rw [a.get?_get i] at hw
    exact Option.some.inj hw ▸ hR
  · intro h
    refine ⟨rfl, fun k v hv => ?_⟩
    have hk := exists_get?_iff.mp ⟨v, hv⟩
    obtain ⟨i, _, rfl⟩ := get?_eq_some_iff.mp hv
    exact ⟨k, _, ⟨hk, hk, .inl rfl⟩, hv, h i⟩

end KeyMap

end ExprLang
