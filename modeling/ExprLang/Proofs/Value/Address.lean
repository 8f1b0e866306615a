import ExprLang.Proofs.Value.Equality

/-!
# Keys that are found

A value is looked up in a map under its address, and then under the twin of the address. Both are integers of the same
number (`eq_or_twin?_iff`), so what is found are the keys that the value equals (`find?_isSome_iff`). The address is an
`int` even where the value is a float, so the floats beyond the signed integers have none, although some of them equal
a key of the unsigned integers.
-/

namespace ExprLang

namespace Key

variable {k l : Key} {n : Int}

/-- The number of a key of either kind of integers. -/
def number? : Key → Option Int
  | int n => some n.toInt
  | uint n => some n.toNat
  | _ => none

private theorem twin?_int_iff {i : Int64} {u : UInt64} : (int i).twin? = some (uint u) ↔ i.toInt = u.toNat := by
  have hu := u.toNat_lt
  rw [twin?]
  by_cases hi : 0 ≤ i
  · have hi' : 0 ≤ i.toInt := by simpa [Int64.le_iff_toInt_le] using hi
    have hnat : i.toUInt64.toNat = i.toInt.toNat := Int64.toNat_toUInt64_of_le hi
    rw [if_pos hi, Option.some_inj, uint.injEq, ← UInt64.toNat_inj, hnat]
    omega
  · have hi' : ¬ 0 ≤ i.toInt := by simpa [Int64.le_iff_toInt_le] using hi
    rw [if_neg hi]
    constructor
    · intro h
      cases h
    · omega

/-- Keys are the same or twins when they have the same number. -/
theorem eq_or_twin?_iff (hk : k.number? = some n) : k = l ∨ k.twin? = some l ↔ l.number? = some n := by
  cases k with
  | bool | string => cases hk
  | int i =>
    obtain rfl : i.toInt = n := Option.some.inj hk
    cases l with
    | bool | string => simp [number?, twin?]
    | int j => simp [number?, twin?, Int64.toInt_inj, eq_comm]
    | uint u => simp [number?, twin?_int_iff, eq_comm]
  | uint u =>
    obtain rfl : (u.toNat : Int) = n := Option.some.inj hk
    cases l with
    | bool | string => simp [number?, twin?]
    | int i => rw [twin?_comm]; simp [number?, twin?_int_iff]
    | uint v => simp [number?, twin?, UInt64.toNat_inj, eq_comm]

theorem twin?_of_number? (hk : k.number? = none) : k.twin? = none := by
  cases k with
  | bool | string => rfl
  | int | uint => cases hk

end Key

namespace KeyMap

theorem find?_isSome_iff {β : Type} {m : KeyMap β} {a : Key} :
    (m.find? a).isSome = true ↔ ∃ k ∈ m.keys, a = k ∨ a.twin? = some k := by
  have hget (k : Key) : (m.get? k).isSome = true ↔ k ∈ m.keys := by
    rw [Option.isSome_iff_exists, exists_get?_iff]
  have hfind : (m.find? a).isSome = true ↔ a ∈ m.keys ∨ ∃ t, a.twin? = some t ∧ t ∈ m.keys := by
    rw [find?, ← hget a]
    cases m.get? a with
    | some v => simp
    | none => simp [Option.isSome_bind, Option.any_eq_true, hget]
  rw [hfind]
  constructor
  · rintro (ha | ⟨t, ht, hm⟩)
    · exact ⟨a, ha, .inl rfl⟩
    · exact ⟨t, hm, .inr ht⟩
  · rintro ⟨k, hk, rfl | ht⟩
    · exact .inl hk
    · exact .inr ⟨k, ht, hk⟩

end KeyMap

namespace Value

variable {x : Value} {m : KeyMap Value} {a k : Key} {n : Int}

theorem number?_toValue (k : Key) : k.toValue.number? = k.number?.map Exact.ofInt := by
  cases k <;> rfl

/-- A value equals a key when it is this key or the number of the key. -/
theorem equals_toValue_iff : x.equals k.toValue = true ↔
    (k.number? = none ∧ x = k.toValue) ∨ ∃ n, k.number? = some n ∧ x.number? = some (.ofInt n) := by
  have hscalar : k.toValue.IsScalar := by cases k <;> exact ⟨rfl, rfl⟩
  have hsymm : x.equals k.toValue = true ↔ k.toValue.equals x = true := ⟨equals_symm, equals_symm⟩
  rw [hsymm, equals_iff_of_isScalar hscalar, number?_toValue]
  cases k.number? with
  | none => simp [eq_comm]
  | some n => simp [Exact.ofInt, eq_comm]

/-- A float that is a number of the unsigned integers beyond the signed ones. -/
def IsBeyondSigned (x : Value) : Prop :=
  ∃ f : Float, x = float f ∧ ∃ u : UInt64, 2 ^ 63 ≤ u.toNat ∧ x.equals (uint u) = true

theorem isBeyondSigned_float_iff {f : Float} : (float f).IsBeyondSigned ↔
    ∃ u : UInt64, 2 ^ 63 ≤ u.toNat ∧ Exact.ofFloat f = .ofInt u.toNat := by
  have hequals (u : UInt64) : (float f).equals (uint u) = true ↔ Exact.ofFloat f = .ofInt u.toNat := by
    have h := @equals_toValue_iff (float f) (.uint u)
    simpa [Key.number?, number?, Key.toValue] using h
  simp [IsBeyondSigned, hequals]

theorem address?_float_iff {f : Float} :
    (float f).address? = some a ↔ ∃ i : Int64, a = .int i ∧ Exact.ofFloat f = .ofInt i.toInt := by
  rw [address?]
  simp only [Binary64.ofFloat_eq_ofInt_iff, Option.ite_none_right_eq_some, Option.some_inj]
  constructor
  · rintro ⟨hguard, rfl⟩
    exact ⟨_, rfl, hguard, rfl⟩
  · rintro ⟨i, rfl, hguard, rfl⟩
    exact ⟨hguard, rfl⟩

private theorem address?_iff (hx : ∀ f, x ≠ float f) : x.address? = some a ↔ x = a.toValue := by
  cases x with
  | float f => exact absurd rfl (hx f)
  | _ => cases a <;> simp [address?, key?, Key.toValue]

private theorem exists_address?_float {f : Float} :
    (∃ a, (float f).address? = some a ∧ (a = k ∨ a.twin? = some k)) ↔
      (float f).equals k.toValue = true ∧ ¬ (float f).IsBeyondSigned := by
  simp only [address?_float_iff, equals_toValue_iff, isBeyondSigned_float_iff, number?, Option.some_inj]
  constructor
  · rintro ⟨_, ⟨i, rfl, hi⟩, hk⟩
    refine ⟨.inr ⟨i.toInt, (Key.eq_or_twin?_iff rfl).mp hk, hi⟩, ?_⟩
    rintro ⟨u, hu, hf⟩
    rw [hi, Exact.ofInt_inj] at hf
    have := i.toInt_lt
    omega
  · rintro ⟨⟨_, h⟩ | ⟨n, hk, hn⟩, hbeyond⟩
    · cases k <;> cases h
    · -- the number is in the range of signed integers
      obtain ⟨i, rfl⟩ : ∃ i : Int64, i.toInt = n := by
        cases k with
        | bool | string => cases hk
        | int i => exact ⟨i, Option.some.inj hk⟩
        | uint u =>
          obtain rfl : (u.toNat : Int) = n := Option.some.inj hk
          have hu : u.toNat < 2 ^ 63 := by
            by_contra h
            exact hbeyond ⟨u, by omega, hn⟩
          exact ⟨.ofNat u.toNat, Int64.toInt_ofNat_of_lt hu⟩
      exact ⟨.int i, ⟨i, rfl, hn⟩, (Key.eq_or_twin?_iff rfl).mpr hk⟩

private theorem exists_address?_of_ne (hx : ∀ f, x ≠ float f) :
    (∃ a, x.address? = some a ∧ (a = k ∨ a.twin? = some k)) ↔ x.equals k.toValue = true := by
  simp only [address?_iff hx, equals_toValue_iff]
  constructor
  · rintro ⟨a, rfl, hk⟩
    cases ha : a.number? with
    | none =>
      rw [Key.twin?_of_number? ha] at hk
      obtain rfl | hk := hk
      · exact .inl ⟨ha, rfl⟩
      · cases hk
    | some n => exact .inr ⟨n, (Key.eq_or_twin?_iff ha).mp hk, by rw [number?_toValue, ha, Option.map_some]⟩
  · rintro (⟨_, rfl⟩ | ⟨n, hk, hn⟩)
    · exact ⟨k, rfl, .inl rfl⟩
    · obtain ⟨a, rfl, ha⟩ : ∃ a : Key, x = a.toValue ∧ a.number? = some n := by
        cases x with
        | int i => exact ⟨.int i, rfl, congrArg some (Exact.ofInt_inj.mp (Option.some.inj hn))⟩
        | uint u => exact ⟨.uint u, rfl, congrArg some (Exact.ofInt_inj.mp (Option.some.inj hn))⟩
        | float f => exact absurd rfl (hx f)
        | _ => cases hn
      exact ⟨a, rfl, (Key.eq_or_twin?_iff ha).mpr hk⟩

/-- The keys that an address finds are those that the value equals, unless it is a float beyond the signed integers. -/
theorem exists_address?_iff : (∃ a, x.address? = some a ∧ (a = k ∨ a.twin? = some k)) ↔
    x.equals k.toValue = true ∧ ¬ x.IsBeyondSigned := by
  by_cases hx : ∃ f, x = float f
  · obtain ⟨f, rfl⟩ := hx
    exact exists_address?_float
  · have hbeyond : ¬ x.IsBeyondSigned := by
      rintro ⟨f, h, -⟩
      exact hx ⟨f, h⟩
    rw [exists_address?_of_ne fun f h => hx ⟨f, h⟩, and_iff_left hbeyond]

theorem find?_isSome_iff : (find? m x).isSome = true ↔
    (∃ k ∈ m.keys, x.equals k.toValue = true) ∧ ¬ x.IsBeyondSigned := by
  rw [find?, Option.isSome_bind, Option.any_eq_true]
  simp only [KeyMap.find?_isSome_iff]
  constructor
  · rintro ⟨a, ha, k, hk, hak⟩
    obtain ⟨hequals, hbeyond⟩ := exists_address?_iff.mp ⟨a, ha, hak⟩
    exact ⟨⟨k, hk, hequals⟩, hbeyond⟩
  · rintro ⟨⟨k, hk, hequals⟩, hbeyond⟩
    obtain ⟨a, ha, hak⟩ := exists_address?_iff.mpr ⟨hequals, hbeyond⟩
    exact ⟨a, ha, k, hk, hak⟩

end Value
end ExprLang
