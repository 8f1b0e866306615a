import ExprLang.Number.Digits
import ExprLang.Text.Quoted

/-!
# Map keys

The keys of maps are booleans, integers of both kinds and texts. They are ordered by kind, in this order, and within
a kind by value; texts are ordered by code points, which is the order of their UTF-8 bytes. The order is linear:
`lt_irrefl`, `lt_trans`, `lt_trichotomy`.

A number has one key for each integer kind that can hold it. The two are different keys; each is the `twin?` of the
other.
-/

namespace ExprLang

/-- A map key. -/
inductive Key where
  | bool (b : Bool)
  | int (n : Int64)
  | uint (n : UInt64)
  | string (s : String)
  deriving DecidableEq, Repr

namespace Key

/-- The order of keys. -/
protected def lt : Key → Key → Prop
  | bool a, bool b => a < b
  | bool _, _ => True
  | int _, bool _ => False
  | int a, int b => a < b
  | int _, _ => True
  | uint a, uint b => a < b
  | uint _, string _ => True
  | uint _, _ => False
  | string a, string b => a < b
  | string _, _ => False

instance : LT Key := ⟨Key.lt⟩

instance decidableLt (a b : Key) : Decidable (a < b) := by
  show Decidable (Key.lt a b)
  cases a <;> cases b <;> unfold Key.lt <;> infer_instance

/-- The same number as a key of the other integer kind, where that can hold it. -/
def twin? : Key → Option Key
  | int n => if 0 ≤ n then some (uint n.toUInt64) else none
  | uint n => if n ≤ Int64.maxValue.toUInt64 then some (int n.toInt64) else none
  | _ => none

/-- The key in expression syntax. -/
def text : Key → String
  | bool b => if b then "true" else "false"
  | int n => String.ofList (Digits.writeInt n.toInt)
  | uint n => String.ofList (Digits.write 10 n.toNat 1 ++ ['u'])
  | string s => Quoted.text s

theorem lt_irrefl (a : Key) : ¬ a < a := by
  intro h
  change Key.lt a a at h
  cases a with
  | bool b => cases b <;> simp [Key.lt] at h
  | int n => exact Int64.lt_irrefl h
  | uint n => exact UInt64.lt_irrefl n h
  | string s => exact String.lt_irrefl s h

theorem lt_trans {a b c : Key} (hab : a < b) (hbc : b < c) : a < c := by
  change Key.lt a b at hab
  change Key.lt b c at hbc
  show Key.lt a c
  cases a <;> cases b <;> cases c <;> simp only [Key.lt] at hab hbc ⊢
  · rename_i x y z
    revert hab hbc; cases x <;> cases y <;> cases z <;> decide
  · exact Int64.lt_trans hab hbc
  · exact UInt64.lt_trans hab hbc
  · exact String.lt_trans hab hbc

theorem lt_trichotomy (a b : Key) : a < b ∨ a = b ∨ b < a := by
  show Key.lt a b ∨ a = b ∨ Key.lt b a
  cases a <;> cases b <;> simp only [Key.lt, true_or, or_true, reduceCtorEq, bool.injEq, int.injEq, uint.injEq,
    string.injEq]
  · rename_i x y
    cases x <;> cases y <;> decide
  · rw [Int64.lt_iff_toInt_lt, Int64.lt_iff_toInt_lt, ← Int64.toInt_inj]; omega
  · rw [UInt64.lt_iff_toNat_lt, UInt64.lt_iff_toNat_lt, ← UInt64.toNat_inj]; omega
  · grind

end Key

end ExprLang
