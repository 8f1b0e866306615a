import Mathlib.Data.List.Forall2
import Mathlib.Data.Nat.Digits.Defs
import ExprLang.Proofs.Number.Digits

/-!
# Positional numerals

A run of digits spells the number that has them in the base, the most significant one first. This is the number that is
read of it (`fixed?_eq_some_iff`), and it is below the power of the base with as many digits (`lt_pow_of_fixed?`),
so that no step on the way to it needs more than the bits of that power (`fits_take`).
-/

namespace ExprLang.Digits

variable {base count n m d : Nat} {c : Char} {cs ds : List Char}

/-- The character is the digit `d` of the base, a letter in either case. -/
def IsDigitOf (base : Nat) (c : Char) (d : Nat) : Prop :=
  d < base ∧ (c = d.digitChar ∨ c = d.digitChar.toUpper)

/-- The digits of `n` in the base, the most significant one first. -/
def Positional (base : Nat) (ds : List Char) (n : Nat) : Prop :=
  ∃ vs, List.Forall₂ (IsDigitOf base) ds vs ∧ n = Nat.ofDigits base vs.reverse

/-- The digits are the ten numerals and the letters behind them, in either case. -/
theorem digit?_eq_some_iff_toNat :
    digit? base c = some d ↔ d < base ∧ (48 ≤ c.toNat ∧ c.toNat ≤ 57 ∧ c.toNat = d + 48 ∨
      97 ≤ c.toNat ∧ c.toNat ≤ 122 ∧ c.toNat = d + 87 ∨ 65 ≤ c.toNat ∧ c.toNat ≤ 90 ∧ c.toNat = d + 55) := by
  have h0 : ('0' ≤ c ∧ c ≤ '9') = (48 ≤ c.toNat ∧ c.toNat ≤ 57) := rfl
  have ha : ('a' ≤ c ∧ c ≤ 'z') = (97 ≤ c.toNat ∧ c.toNat ≤ 122) := rfl
  have hA : ('A' ≤ c ∧ c ≤ 'Z') = (65 ≤ c.toNat ∧ c.toNat ≤ 90) := rfl
  have h0' : '0'.toNat = 48 := rfl
  have ha' : 'a'.toNat = 97 := rfl
  have hA' : 'A'.toNat = 65 := rfl
  unfold digit?
  simp only [h0, ha, hA, h0', ha', hA']
  split_ifs <;> simp <;> omega

private theorem toNat_digitChar (hd : d < 16) : d.digitChar.toNat = (if d < 10 then d + 48 else d + 87) ∧
    d.digitChar.toUpper.toNat = if d < 10 then d + 48 else d + 55 := by
  have all : ∀ n < 16, n.digitChar.toNat = (if n < 10 then n + 48 else n + 87) ∧
      n.digitChar.toUpper.toNat = if n < 10 then n + 48 else n + 55 := by decide
  exact all d hd

theorem digit?_eq_some_iff (hb : base ≤ 16) : digit? base c = some d ↔ IsDigitOf base c d := by
  rw [digit?_eq_some_iff_toNat, IsDigitOf, and_congr_right_iff]
  intro hd
  obtain ⟨hlower, hupper⟩ := toNat_digitChar (d := d) (by omega)
  rw [← Char.toNat_inj, ← Char.toNat_inj, hlower, hupper]
  split <;> omega

theorem digit?_lt (h : digit? base c = some d) : d < base := (digit?_eq_some_iff_toNat.mp h).1

/-- Digits behind a number are its digits of the lower places. -/
private theorem valueFrom?_eq_some_iff_ofDigits (hb : base ≤ 16) : valueFrom? base n ds = some m ↔
    ∃ vs, List.Forall₂ (IsDigitOf base) ds vs ∧ m = Nat.ofDigits base (vs.reverse ++ [n]) := by
  induction ds generalizing n with
  | nil => simp [valueFrom?, eq_comm, List.forall₂_nil_left_iff]
  | cons c ds ih =>
    have hplace (d : Nat) (vs : List Nat) :
        Nat.ofDigits base ((d :: vs).reverse ++ [n]) = Nat.ofDigits base (vs.reverse ++ [n * base + d]) := by
      rw [List.reverse_cons, List.append_assoc, Nat.ofDigits_append, List.singleton_append, Nat.ofDigits_cons,
        Nat.ofDigits_singleton, Nat.ofDigits_append, Nat.ofDigits_singleton, Nat.mul_comm base, Nat.add_comm d]
    simp only [valueFrom?, Option.bind_eq_some_iff, digit?_eq_some_iff hb, ih, List.forall₂_cons_left_iff]
    constructor
    · rintro ⟨d, hd, vs, hvs, rfl⟩
      exact ⟨d :: vs, ⟨d, vs, hd, hvs, rfl⟩, (hplace d vs).symm⟩
    · rintro ⟨_, ⟨d, vs, hd, hvs, rfl⟩, rfl⟩
      exact ⟨d, hd, vs, hvs, hplace d vs⟩

/-- A number of a fixed width is that of the characters as many. -/
private theorem value?_of_fixed? (h : fixed? base count cs = some n) :
    (cs.take count).length = count ∧ value? base (cs.take count) = some n := by
  unfold fixed? at h
  split at h
  case isFalse => cases h
  rename_i hle
  exact ⟨List.length_take_of_le hle, h⟩

/-- The number that is read of the first characters is the one that they spell. -/
theorem fixed?_eq_some_iff (hb : base ≤ 16) (hcount : 0 < count) :
    fixed? base count cs = some n ↔ ∃ ds rest, cs = ds ++ rest ∧ ds.length = count ∧ Positional base ds n := by
  have hvalue (ds : List Char) (hlen : ds.length = count) : value? base ds = some n ↔ Positional base ds n := by
    have hne : ds ≠ [] := List.length_pos_iff.mp (by omega)
    rw [value?_eq_valueFrom? hne, valueFrom?_eq_some_iff_ofDigits hb, Positional]
    simp [Nat.ofDigits_append]
  constructor
  · intro h
    obtain ⟨hlen, h⟩ := value?_of_fixed? h
    exact ⟨_, _, (List.take_append_drop count cs).symm, hlen, (hvalue _ hlen).mp h⟩
  · rintro ⟨ds, rest, rfl, hlen, h⟩
    rw [fixed?, if_pos (by simp [hlen]), List.take_left' hlen]
    exact (hvalue ds hlen).mpr h

/-! ### The first digit -/

theorem valueFrom?_eq_map :
    valueFrom? base n ds = (valueFrom? base 0 ds).map fun m => n * base ^ ds.length + m := by
  induction ds generalizing n with
  | nil => simp [valueFrom?]
  | cons c ds ih =>
    rw [valueFrom?, valueFrom?, Option.map_bind]
    congr 1
    funext d
    rw [ih, Function.comp_apply, ih (n := 0 * base + d), Option.map_map]
    congr 1
    funext m
    rw [Function.comp_apply, Nat.zero_mul, Nat.zero_add, List.length_cons, Nat.pow_succ', Nat.add_mul, Nat.mul_assoc,
      Nat.add_assoc]

theorem exists_digit?_of_fixed? (h : fixed? base (count + 1) (c :: cs) = some n) : ∃ d, digit? base c = some d := by
  obtain ⟨d, hd, -⟩ := Option.bind_eq_some_iff.mp (value?_of_fixed? h).2
  exact ⟨d, hd⟩

/-- A digit in front is worth all the places behind it. -/
theorem fixed?_cons (hd : digit? base c = some d) (hcount : 0 < count) :
    fixed? base (count + 1) (c :: cs) = (fixed? base count cs).map fun n => d * base ^ count + n := by
  unfold fixed?
  by_cases hle : count ≤ cs.length
  · have hlen : (cs.take count).length = count := List.length_take_of_le hle
    have hne : cs.take count ≠ [] := List.length_pos_iff.mp (by omega)
    rw [if_pos (by simpa using hle), if_pos hle, List.take_succ_cons, value?, valueFrom?, hd, Option.bind_some,
      valueFrom?_eq_map, hlen, value?_eq_valueFrom? hne, Nat.zero_mul, Nat.zero_add]
  · rw [if_neg (by simpa using hle), if_neg hle, Option.map_none]

/-! ### Bounds -/

/-- Further digits move a number up by a place each, and add less than a place. -/
theorem lt_of_valueFrom? (h : valueFrom? base n ds = some m) : m < (n + 1) * base ^ ds.length := by
  induction ds generalizing n with
  | nil =>
    obtain rfl := Option.some.inj h
    simp
  | cons c ds ih =>
    obtain ⟨d, hd, h⟩ := Option.bind_eq_some_iff.mp h
    calc m < (n * base + d + 1) * base ^ ds.length := ih h
      _ ≤ (n * base + base) * base ^ ds.length := Nat.mul_le_mul_right _ (Nat.add_le_add_left (digit?_lt hd) _)
      _ = (n + 1) * base ^ (c :: ds).length := by
        rw [List.length_cons, Nat.pow_succ', ← Nat.mul_assoc, Nat.add_mul n, Nat.one_mul]

theorem lt_pow_of_fixed? (h : fixed? base count cs = some n) : n < base ^ count := by
  obtain ⟨hlen, h⟩ := value?_of_fixed? h
  generalize cs.take count = ds at h hlen
  cases ds with
  | nil => cases h
  | cons c ds =>
    have hlt := lt_of_valueFrom? h
    rwa [Nat.zero_add, Nat.one_mul, hlen] at hlt

/-- Adding the digits up one by one, each behind the number of those in front of it, stays below the bound. -/
def Fits (bound base : Nat) (ds : List Char) : Prop :=
  ∀ front c back n d, ds = front ++ c :: back → valueFrom? base 0 front = some n → digit? base c = some d →
    n * base + d < bound

theorem Fits.mono {b b' : Nat} (h : Fits b base ds) (hb : b ≤ b') : Fits b' base ds :=
  fun front c back n d hds hn hd => Nat.lt_of_lt_of_le (h front c back n d hds hn hd) hb

theorem fits_take (count : Nat) (cs : List Char) : Fits (base ^ count) base (cs.take count) := by
  intro front c back n d hds hn hd
  have hbase : 0 < base := Nat.zero_lt_of_lt (digit?_lt hd)
  have hnext : valueFrom? base 0 (front ++ [c]) = some (n * base + d) := by
    rw [valueFrom?_append, hn, Option.bind_some, valueFrom?, hd]
    rfl
  have hlength : (front ++ [c]).length ≤ count := by
    have := congrArg List.length hds
    simp at this ⊢
    omega
  calc n * base + d < (0 + 1) * base ^ (front ++ [c]).length := lt_of_valueFrom? hnext
    _ = base ^ (front ++ [c]).length := Nat.one_mul _
    _ ≤ base ^ count := Nat.pow_le_pow_right hbase hlength

end ExprLang.Digits
