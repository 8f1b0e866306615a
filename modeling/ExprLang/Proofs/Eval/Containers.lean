import ExprLang.Library.Standard
import ExprLang.Proofs.Eval.Integers
import ExprLang.Proofs.Eval.Membership

/-!
# Equal lists and maps

Equal lists have as many items, and equal maps as many keys; each of these members of the one equals a member of the
other (`exists_member_equals`). Neither `size` nor `in` depends on more than that (`dispatch_size`,
`relate_member_container`), so they do not tell equal lists and equal maps apart (`eval_of_equal_containers`), although
a map may hold its numbers under other kinds of keys than an equal one does.
-/

namespace ExprLang

/-- Keys that are the same or twins are equal as values. -/
theorem Key.equals_of_eq_or_twin? {k l : Key} (h : k = l ∨ k.twin? = some l) : k.toValue.equals l.toValue = true := by
  cases hk : k.number? with
  | none =>
    rw [twin?_of_number? hk] at h
    obtain rfl := h.resolve_right nofun
    exact Value.equals_toValue_iff.mpr (.inl ⟨hk, rfl⟩)
  | some n =>
    refine Value.equals_toValue_iff.mpr (.inr ⟨n, (eq_or_twin?_iff hk).mp h, ?_⟩)
    rw [Value.number?_toValue, hk, Option.map_some]

namespace Value

variable {a b v x : Value}

/-- The value is a list or a map. -/
def IsContainer (a : Value) : Prop := a.kind = .list ∨ a.kind = .map

/-- The items of a list and the keys of a map. -/
def members : Value → List Value
  | list items => items
  | map m => m.keys.map Key.toValue
  | _ => []

theorem length_members_map (m : KeyMap Value) : (map m).members.length = m.size := List.length_map _

/-- What equals a list is a list of equal items, and what equals a map is a map with equal entries. -/
theorem equals_container_cases (ha : a.IsContainer) (h : a.equals b = true) :
    (∃ items items', a = list items ∧ b = list items' ∧ List.Forall₂ (fun v w => v.equals w = true) items items') ∨
    ∃ m n, a = map m ∧ b = map n ∧ KeyMap.Related (fun v w => v.equals w = true) m n := by
  cases a with
  | list items =>
    obtain ⟨items', rfl⟩ := exists_of_list_equals h
    exact .inl ⟨items, items', rfl, rfl, equals_list_iff.mp h⟩
  | map m =>
    obtain ⟨n, rfl⟩ := exists_of_map_equals h
    exact .inr ⟨m, n, rfl, rfl, equals_map_iff.mp h⟩
  | _ => simp [IsContainer, kind] at ha

theorem kind_eq_of_equals (ha : a.IsContainer) (h : a.equals b = true) : a.kind = b.kind := by
  obtain ⟨_, _, rfl, rfl, -⟩ | ⟨_, _, rfl, rfl, -⟩ := equals_container_cases ha h <;> rfl

theorem length_members_of_equals (ha : a.IsContainer) (h : a.equals b = true) :
    a.members.length = b.members.length := by
  obtain ⟨items, items', rfl, rfl, hitems⟩ | ⟨m, n, rfl, rfl, hentries⟩ := equals_container_cases ha h
  · exact hitems.length_eq
  · rw [length_members_map, length_members_map, hentries.1]

/-- A member equals a member of the equal value. -/
theorem exists_member_equals (ha : a.IsContainer) (h : a.equals b = true) (hv : v ∈ a.members) :
    ∃ w ∈ b.members, v.equals w = true := by
  obtain ⟨items, items', rfl, rfl, hitems⟩ | ⟨m, n, rfl, rfl, hentries⟩ := equals_container_cases ha h
  · obtain ⟨i, hi, rfl⟩ := List.mem_iff_getElem.mp hv
    obtain ⟨hlength, hget⟩ := List.forall₂_iff_get.mp hitems
    exact ⟨_, List.getElem_mem (hlength ▸ hi), hget i hi (hlength ▸ hi)⟩
  · obtain ⟨k, hk, rfl⟩ := List.mem_map.mp hv
    obtain ⟨l, -, hl, hkl⟩ := hentries.pairOff.1 k hk
    exact ⟨l.toValue, List.mem_map_of_mem hl, Key.equals_of_eq_or_twin? (hkl.imp_right And.left)⟩

/-- The members of equal values equal the same values. -/
theorem exists_member_iff (ha : a.IsContainer) (h : a.equals b = true) :
    (∃ v ∈ a.members, x.equals v = true) ↔ ∃ w ∈ b.members, x.equals w = true := by
  have hb : b.IsContainer := by
    rw [IsContainer, ← kind_eq_of_equals ha h]
    exact ha
  constructor
  · rintro ⟨v, hv, hxv⟩
    obtain ⟨w, hw, hvw⟩ := exists_member_equals ha h hv
    exact ⟨w, hw, equals_trans hxv hvw⟩
  · rintro ⟨w, hw, hxw⟩
    obtain ⟨v, hv, hwv⟩ := exists_member_equals hb (equals_symm h) hw
    exact ⟨v, hv, equals_trans hxw hwv⟩

end Value

open Value (IsContainer)

variable {a b x : Value}

/-- A value is in a list or a map when it equals a member, unless a map is asked for a float beyond the signed
integers. -/
theorem Operation.relate_member_container (ha : a.IsContainer) : ∃ t, relate .member x a = .ok t ∧
    (t = true ↔ (∃ v ∈ a.members, x.equals v = true) ∧ ¬ (a.kind = .map ∧ x.IsBeyondSigned)) := by
  cases a with
  | list items =>
    obtain ⟨t, ht, hiff⟩ := @relate_member_list x items
    exact ⟨t, ht, by simpa [Value.members, Value.kind] using hiff⟩
  | map m =>
    obtain ⟨t, ht, hiff⟩ := @relate_member_map x m
    exact ⟨t, ht, by simpa [Value.members, Value.kind] using hiff⟩
  | _ => simp [IsContainer, Value.kind] at ha

namespace Library

theorem dispatch_size (matcher : Matcher) (ha : a.IsContainer) :
    (standardWith matcher).dispatch "size" [a] = length a.members.length := by
  cases a with
  | list items => rfl
  | map m =>
    rw [Value.length_members_map]
    rfl
  | _ => simp [IsContainer, Value.kind] at ha

theorem length_of_lt {n : Nat} (h : n < 2 ^ 63) : ∃ k : Int64, k.toInt = n ∧ length n = .ok (.int k) := by
  have hholds : IntegerKind.int.Holds n := by
    rw [IntegerKind.Holds]
    omega
  obtain ⟨k, hk, hnumber⟩ := Arithmetic.toInt_of_holds "size" hholds
  exact ⟨k, hnumber, by rw [length, hk]; rfl⟩

end Library

/-- Equal lists and equal maps have the same size, which is an `int` if it fits, and are alike to `in`. -/
theorem eval_of_equal_containers {α : Type} (matcher : Library.Matcher) (scope : Scope) (note : α)
    (needle l r : Expr α) (x a b : Value) (hneedle : needle.eval ⟨scope, Library.standardWith matcher⟩ = .ok x)
    (hl : l.eval ⟨scope, Library.standardWith matcher⟩ = .ok a)
    (hr : r.eval ⟨scope, Library.standardWith matcher⟩ = .ok b) (ha : a.kind = .list ∨ a.kind = .map)
    (h : a.equals b = true) :
    let size (e : Expr α) := (Expr.call note (.name note "size") [e]).eval ⟨scope, Library.standardWith matcher⟩
    let member (e : Expr α) := (Expr.relation note .member needle e).eval ⟨scope, Library.standardWith matcher⟩
    size l = size r ∧
    (a.members.length < 2 ^ 63 → ∃ n : Int64, n.toInt = a.members.length ∧ size l = .ok (.int n)) ∧
    ∃ t, member l = .ok (.bool t) ∧ member r = .ok (.bool t) := by
  intro size member
  have hkind := Value.kind_eq_of_equals ha h
  have hb : b.IsContainer := by
    rw [IsContainer, ← hkind]
    exact ha
  have hsize {e : Expr α} {v : Value} (he : e.eval ⟨scope, Library.standardWith matcher⟩ = .ok v) (hv : v.IsContainer) :
      size e = Library.length v.members.length := by
    rw [← Library.dispatch_size matcher hv]
    show (Expr.evalItems _ [e]).bind _ = _
    rw [Expr.evalItems, he]
    rfl
  have hmember {e : Expr α} {v : Value} (he : e.eval ⟨scope, Library.standardWith matcher⟩ = .ok v) :
      member e = (Operation.relate .member x v).map .bool := by
    show (Expr.relation note .member needle e).eval _ = _
    rw [Expr.eval, hneedle, he]
    rfl
  refine ⟨?_, fun hlt => ?_, ?_⟩
  · rw [hsize hl ha, hsize hr hb, Value.length_members_of_equals ha h]
  · rw [hsize hl ha]
    exact Library.length_of_lt hlt
  · obtain ⟨t, ht, hiff⟩ := @Operation.relate_member_container a x ha
    obtain ⟨t', ht', hiff'⟩ := @Operation.relate_member_container b x hb
    rw [hkind, Value.exists_member_iff ha h, ← hiff', ← Bool.eq_iff_iff] at hiff
    subst hiff
    rw [hmember hl, hmember hr, ht, ht']
    exact ⟨t, rfl, rfl⟩

/-- Two maps that hold one number under keys of different kinds, and another number under keys of both. -/
theorem eval_of_maps_with_twins :
    let m : KeyMap Value := .ofList [(.int 1, .list [.uint 2]), (.int 3, .null), (.uint 3, .bool true)]
    let n : KeyMap Value := .ofList [(.uint 1, .list [.float 2]), (.int 3, .null), (.uint 3, .bool true)]
    let c : Context := ⟨fun s => if s = "x" then some (.float 1) else if s = "m" then some (.map m) else some (.map n),
      Library.standard⟩
    (Value.map m).kind = .map ∧ (Value.map m).equals (.map n) = true ∧
    (Expr.call () (.name () "size") [.name () "n"]).eval c = .ok (.int 3) ∧
    (Expr.relation () .member (.name () "x") (.name () "n")).eval c = .ok (.bool true) := by
  intro m n c
  have hequals : (Value.map m).equals (.map n) = true := by decide +kernel
  obtain ⟨hsize, hint, t, hm, hn⟩ := eval_of_equal_containers Regex.matcher c.scope () (.name () "x") (.name () "m")
    (.name () "n") (.float 1) (.map m) (.map n) rfl rfl rfl (.inr rfl) hequals
  have hlength : (Value.map m).members.length = 3 := by decide +kernel
  obtain ⟨k, hk, hsizem⟩ := hint (by rw [hlength]; decide)
  obtain rfl : k = 3 := by
    rw [← Int64.toInt_inj, hk, hlength]
    rfl
  obtain rfl : t = true := by
    have hfind : (Value.find? m (.float 1)).isSome = true := by decide +kernel
    have hmember : (Expr.relation () .member (.name () "x") (.name () "m")).eval c =
        .ok (.bool (Value.find? m (.float 1)).isSome) := rfl
    rw [hfind] at hmember
    exact Value.bool.inj (Except.ok.inj (hm.symm.trans hmember))
  exact ⟨rfl, hequals, hsize.symm.trans hsizem, hn⟩

end ExprLang
