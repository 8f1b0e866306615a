import Mathlib.Data.List.Lex
import Mathlib.Tactic.SplitIfs
import ExprLang.Text.Utf8

/-!
# The order of texts

Texts are ordered as their bytes are (`encode_lt_encode_iff`). Of two characters the one with the lower code point has
the lower bytes, and the difference shows in the bytes of both, so it decides whatever stands behind
(`utf8EncodeChar_append_lt`).
-/

namespace ExprLang.Utf8

variable {c d : Char} {cs ds : List Char}

/-- The first byte is lower, or it is the same and the rest decides. -/
private theorem ofNat_cons_lt {m n : Nat} {s t : List UInt8} (hm : m < 256) (hn : n < 256)
    (h : m ≤ n ∧ (m = n → s < t)) : UInt8.ofNat m :: s < UInt8.ofNat n :: t := by
  rw [List.cons_lt_cons_iff, UInt8.lt_iff_toNat_lt, UInt8.toNat_ofNat_of_lt' hm, UInt8.toNat_ofNat_of_lt' hn]
  rcases Nat.lt_or_eq_of_le h.1 with hlt | rfl
  · exact .inl hlt
  · exact .inr ⟨rfl, h.2 rfl⟩

theorem utf8EncodeChar_append_lt (h : c < d) (s t : List UInt8) :
    String.utf8EncodeChar c ++ s < String.utf8EncodeChar d ++ t := by
  have hlt : c.val.toNat < d.val.toNat := UInt32.lt_iff_toNat_lt.mp (Char.lt_def.mp h)
  have hbound : d.val.toNat < 1114112 := by
    rcases d.valid with h | ⟨_, h⟩ <;> omega
  unfold String.utf8EncodeChar
  generalize c.val.toNat = m at hlt
  generalize d.val.toNat = n at hlt hbound
  dsimp only
  -- where the lengths differ the first bytes do, and else the bytes are digits to the base 64
  split_ifs
  all_goals
    simp only [List.cons_append, List.nil_append]
    repeat' first
      | exact ofNat_cons_lt (by omega) (by omega) ⟨by omega, by omega⟩
      | refine ofNat_cons_lt (by omega) (by omega) ⟨by omega, fun _ => ?_⟩

theorem encode_cons (c : Char) (cs : List Char) : encode (c :: cs) = String.utf8EncodeChar c ++ encode cs := rfl

private theorem encode_lt_encode (h : cs < ds) : encode cs < encode ds := by
  induction h with
  | nil =>
    rename_i d ds
    obtain ⟨b, bs, hb⟩ := List.exists_cons_of_ne_nil (String.utf8EncodeChar_ne_nil (c := d))
    rw [encode_cons, hb]
    exact .nil
  | rel h =>
    rw [encode_cons, encode_cons]
    exact utf8EncodeChar_append_lt h _ _
  | cons _ ih =>
    rw [encode_cons, encode_cons]
    exact List.append_left_lt ih

/-- The order of texts is that of their bytes. -/
theorem encode_lt_encode_iff : encode cs < encode ds ↔ cs < ds := by
  refine ⟨fun h => ?_, encode_lt_encode⟩
  rcases Std.lt_trichotomy cs ds with hlt | rfl | hgt
  · exact hlt
  · exact absurd h (List.lt_irrefl _)
  · exact absurd (List.lt_trans h (encode_lt_encode hgt)) (List.lt_irrefl _)

end ExprLang.Utf8
