import ExprLang.Eval.Evaluate
import ExprLang.Proofs.Value.Address

/-!
# Membership

A value is in a list when it equals one of its items (`relate_member_list`), and in a map when it equals one of its
keys, unless it is a float beyond the signed integers (`relate_member_map`). Such floats are in no map, also not in one
that has a key which they equal; for all others a map is as good as the list of its keys.
-/

namespace ExprLang

open Operation (relate)

variable {x : Value} {m : KeyMap Value} {items : List Value}

/-- The keys of a map in a list. -/
def KeyMap.keyList (m : KeyMap Value) : Value := .list (m.keys.map Key.toValue)

namespace Operation

theorem relate_member_list : ∃ b, relate .member x (.list items) = .ok b ∧
    (b = true ↔ ∃ v ∈ items, x.equals v = true) :=
  ⟨items.any fun v => x.equals v, rfl, List.any_eq_true⟩

theorem relate_member_map : ∃ b, relate .member x (.map m) = .ok b ∧
    (b = true ↔ (∃ k ∈ m.keys, x.equals k.toValue = true) ∧ ¬ x.IsBeyondSigned) :=
  ⟨(Value.find? m x).isSome, rfl, Value.find?_isSome_iff⟩

/-- A value that is not beyond the signed integers is in a map when it is in the list of its keys. -/
theorem relate_member_keyList (hx : ¬ x.IsBeyondSigned) :
    relate .member x (.map m) = relate .member x m.keyList := by
  obtain ⟨b, hb, hmap⟩ := @relate_member_map x m
  obtain ⟨b', hb', hlist⟩ := @relate_member_list x (m.keys.map Key.toValue)
  rw [KeyMap.keyList, hb, hb']
  have hiff : b = true ↔ b' = true := by
    rw [hmap, hlist]
    simp [hx]
  rw [Bool.eq_iff_iff.mpr hiff]

/-- A float beyond the signed integers is not in the map of the one key that it equals. -/
theorem exists_relate_member_ne (hx : x.IsBeyondSigned) :
    ∃ m : KeyMap Value, relate .member x (.map m) ≠ relate .member x m.keyList := by
  obtain ⟨_, _, u, _, hu⟩ := id hx
  let m : KeyMap Value := .ofAscending [(.uint u, .null)] (List.pairwise_singleton _ _)
  have hkeys : m.keys = [.uint u] := rfl
  refine ⟨m, fun h => ?_⟩
  obtain ⟨b, hb, hmap⟩ := @relate_member_map x m
  obtain ⟨b', hb', hlist⟩ := @relate_member_list x (m.keys.map Key.toValue)
  rw [KeyMap.keyList, hb, hb', Except.ok.injEq] at h
  have htrue : b' = true := hlist.mpr ⟨.uint u, by simp [hkeys, Key.toValue], hu⟩
  rw [← h] at htrue
  exact (hmap.mp htrue).2 hx

end Operation

/-- A value is in a map when it equals one of its keys and is no float beyond the signed integers. Otherwise a map is as
good as the list of its keys, and these floats are the only values for which it is not. -/
theorem eval_member_map {α : Type} (c : Context) (note : α) (l r s : Expr α) (x : Value) (m : KeyMap Value)
    (hl : l.eval c = .ok x) (hr : r.eval c = .ok (.map m)) (hs : s.eval c = .ok m.keyList) :
    (∃ b, (Expr.relation note .member l r).eval c = .ok (.bool b) ∧
      (b = true ↔ (∃ k ∈ m.keys, x.equals k.toValue = true) ∧ ¬ x.IsBeyondSigned)) ∧
    (¬ x.IsBeyondSigned →
      (Expr.relation note .member l r).eval c = (Expr.relation note .member l s).eval c) ∧
    ((∀ m' : KeyMap Value, relate .member x (.map m') = relate .member x m'.keyList) ↔ ¬ x.IsBeyondSigned) := by
  have hmap : (Expr.relation note .member l r).eval c = (relate .member x (.map m)).map .bool := by
    rw [Expr.eval, hl, hr]
    rfl
  have hlist : (Expr.relation note .member l s).eval c = (relate .member x m.keyList).map .bool := by
    rw [Expr.eval, hl, hs]
    rfl
  refine ⟨?_, fun hx => ?_, fun h hx => ?_, fun hx _ => Operation.relate_member_keyList hx⟩
  · obtain ⟨b, hb, hiff⟩ := @Operation.relate_member_map x m
    rw [hmap, hb]
    exact ⟨b, rfl, hiff⟩
  · rw [hmap, hlist, Operation.relate_member_keyList hx]
  · obtain ⟨m', hne⟩ := Operation.exists_relate_member_ne hx
    exact hne (h m')

/-- The greatest double below the floats beyond the signed integers, among keys of both kinds. -/
theorem eval_member_map_below :
    let x : Value := .float 9223372036854774784
    let m : KeyMap Value := .ofList [(.uint 9223372036854774784, .null), (.int (-1), .null)]
    let c : Context := ⟨fun s => if s = "x" then some x else if s = "m" then some (.map m) else some m.keyList, .empty⟩
    (Expr.name () "x").eval c = .ok x ∧ (Expr.name () "m").eval c = .ok (.map m) ∧
    (Expr.name () "s").eval c = .ok m.keyList ∧ ¬ x.IsBeyondSigned ∧
    (Expr.relation () .member (.name () "x") (.name () "m")).eval c = .ok (.bool true) := by
  intro x m c
  have hl : (Expr.name () "x").eval c = .ok x := rfl
  have hr : (Expr.name () "m").eval c = .ok (.map m) := rfl
  have hs : (Expr.name () "s").eval c = .ok m.keyList := rfl
  have hbelow : ¬ x.IsBeyondSigned := by
    have hx : Exact.ofFloat 9223372036854774784 = .ofInt 9223372036854774784 := by decide +kernel
    rw [Value.isBeyondSigned_float_iff, hx]
    rintro ⟨u, hu, heq⟩
    rw [Exact.ofInt_inj] at heq
    omega
  have hkey : .uint 9223372036854774784 ∈ m.keys := by decide +kernel
  have hequals : x.equals (.uint 9223372036854774784) = true := by decide +kernel
  obtain ⟨b, hb, hiff⟩ := (eval_member_map c () (.name () "x") (.name () "m") (.name () "s") x m hl hr hs).1
  rw [hiff.mpr ⟨⟨_, hkey, hequals⟩, hbelow⟩] at hb
  exact ⟨hl, hr, hs, hbelow, hb⟩

/-- The least float beyond the signed integers equals a key of the map, but is not in the map. -/
theorem not_member_map_iff : ¬ ∀ (x : Value) (m : KeyMap Value),
    relate .member x (.map m) = .ok true ↔ ∃ k ∈ m.keys, x.equals k.toValue = true := by
  intro h
  let x : Value := .float 9223372036854775808
  let m : KeyMap Value := .ofAscending [(.uint 9223372036854775808, .null)] (List.pairwise_singleton _ _)
  have hequals : x.equals (.uint 9223372036854775808) = true := by decide +kernel
  have hfind : (Value.find? m x).isSome = false := by decide +kernel
  have hmember : relate .member x (.map m) = .ok true :=
    (h x m).mpr ⟨.uint 9223372036854775808, List.mem_singleton_self _, hequals⟩
  have hfound : (Value.find? m x).isSome = true := Except.ok.inj hmember
  rw [hfind] at hfound
  nomatch hfound

end ExprLang
