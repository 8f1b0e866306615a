import Mathlib.Data.List.TakeWhile
import Mathlib.Tactic.IntervalCases
import ExprLang.Number.Digits

/-!
# Writing and reading digits

A numeral that is written reads back as its number (`value?_write`), with as many zeros in front as one likes and with
each zero behind it worth a factor of the base (`valueFrom?_zeros`). A run of digits ends where it is written to end if
no digit stands behind it (`runLength_append`).
-/

namespace ExprLang

/-- A run of characters of a sort is as long as it looks when the character behind it is of another sort. -/
theorem takeWhile_append_eq {α : Type} {p : α → Bool} {xs rest : List α} (hx : ∀ x ∈ xs, p x = true)
    (hr : ∀ x ∈ rest.head?, p x = false) : (xs ++ rest).takeWhile p = xs ∧ (xs ++ rest).dropWhile p = rest := by
  rw [List.takeWhile_append_of_pos hx, List.dropWhile_append_of_pos hx]
  cases rest with
  | nil => simp
  | cons c rest =>
    have hc : p c = false := hr c rfl
    simp [hc]

namespace Digits

variable {base m n w : Nat} {c : Char} {ds es rest : List Char}

/-- The decimal digits. -/
def decimals : List Char := ['0', '1', '2', '3', '4', '5', '6', '7', '8', '9']

private theorem mem_decimals (h : isDigit 10 c = true) : c ∈ decimals := by
  have hc : 48 ≤ c.toNat ∧ c.toNat ≤ 57 := by
    unfold isDigit digit? at h
    split at h
    · rename_i hd
      exact hd
    · split at h
      · simp at h
      · split at h <;> simp at h
  obtain ⟨h₁, h₂⟩ := hc
  rw [← Char.ofNat_toNat c]
  generalize c.toNat = n at h₁ h₂
  interval_cases n <;> decide

/-- What holds of the ten digits can be checked for each of them. -/
@[elab_as_elim]
theorem of_isDigit {p : Char → Prop} [DecidablePred p] (h : isDigit 10 c = true)
    (hp : decimals.all (fun c => p c) = true) : p c := of_decide_eq_true (List.all_eq_true.mp hp c (mem_decimals h))

theorem digit?_digitChar (hb : base ≤ 16) (hn : n < base) : digit? base n.digitChar = some n := by
  have hd : n < 16 := by omega
  unfold digit?
  interval_cases n <;> simp [Nat.digitChar] <;> omega

theorem valueFrom?_append :
    valueFrom? base n (ds ++ es) = (valueFrom? base n ds).bind fun m => valueFrom? base m es := by
  induction ds generalizing n with
  | nil => rfl
  | cons c ds ih =>
    rw [List.cons_append, valueFrom?, valueFrom?]
    cases digit? base c with
    | none => rfl
    | some d => exact ih

theorem value?_eq_valueFrom? (h : ds ≠ []) : value? base ds = valueFrom? base 0 ds := by
  cases ds with
  | nil => exact absurd rfl h
  | cons c cs => rfl

theorem valueFrom?_zeros (hb : 1 < base) (k : Nat) :
    valueFrom? base n (List.replicate k '0') = some (n * base ^ k) := by
  have h0 : digit? base '0' = some 0 := by
    have : 0 < base := by omega
    simp [digit?, this]
  induction k generalizing n with
  | zero => simp [valueFrom?]
  | succ k ih =>
    rw [List.replicate_succ, valueFrom?, h0, Option.bind_some, ih, Nat.pow_succ, Nat.add_zero, Nat.mul_assoc,
      Nat.mul_comm base]

theorem valueFrom?_toDigits (hb : 1 < base) (hb' : base ≤ 16) (n : Nat) :
    valueFrom? base 0 (Nat.toDigits base n) = some n := by
  induction n using Nat.strong_induction_on with
  | _ n ih =>
    rw [Nat.toDigits_eq_if hb]
    split
    · rename_i hn
      simp [valueFrom?, digit?_digitChar hb' hn]
    · have hlt : n % base < base := Nat.mod_lt _ (by omega)
      have hdiv : n / base < n := Nat.div_lt_self (by omega) hb
      rw [valueFrom?_append, ih _ hdiv, Option.bind_some, valueFrom?, digit?_digitChar hb' hlt, Option.bind_some,
        valueFrom?, Nat.div_add_mod']

theorem write_ne_nil : write base n w ≠ [] := by
  simp [write]

/-- What is written reads back. -/
theorem value?_write (hb : 1 < base) (hb' : base ≤ 16) (n w : Nat) : value? base (write base n w) = some n := by
  rw [value?_eq_valueFrom? write_ne_nil, write, valueFrom?_append, valueFrom?_zeros hb, Nat.zero_mul, Option.bind_some,
    valueFrom?_toDigits hb hb']

/-- A number below the power of the base fills the width exactly. -/
theorem length_write (hb : 1 < base) (hw : 0 < w) (hn : n < base ^ w) : (write base n w).length = w := by
  have := (Nat.length_toDigits_le_iff hb hw).mpr hn
  rw [write, List.length_append, List.length_replicate]
  omega

theorem fixed?_write (hb : 1 < base) (hb' : base ≤ 16) (hw : 0 < w) (hn : n < base ^ w) (rest : List Char) :
    fixed? base w (write base n w ++ rest) = some n := by
  have hlen := length_write hb hw hn
  rw [fixed?, if_pos (by rw [List.length_append]; omega), List.take_left' hlen, value?_write hb hb']

/-- What has a value consists of digits. -/
theorem isDigit_of_valueFrom? (h : valueFrom? base n ds = some m) : ∀ c ∈ ds, isDigit base c = true := by
  induction ds generalizing n with
  | nil => simp
  | cons c ds ih =>
    rw [valueFrom?, Option.bind_eq_some_iff] at h
    obtain ⟨d, hd, h⟩ := h
    intro x hx
    rcases List.mem_cons.mp hx with rfl | hx
    · rw [isDigit, hd]
      rfl
    · exact ih h x hx

theorem isDigit_of_value? (h : value? base ds = some m) : ∀ c ∈ ds, isDigit base c = true := by
  cases ds with
  | nil => simp
  | cons c cs => exact isDigit_of_valueFrom? h

theorem runLength_append (hd : ∀ c ∈ ds, isDigit base c = true) (hr : ∀ c ∈ rest.head?, isDigit base c = false) :
    runLength base (ds ++ rest) = ds.length := by
  rw [runLength, (takeWhile_append_eq hd hr).1]

end Digits

end ExprLang
