import ExprLang.Eval.Evaluate
import ExprLang.Proofs.Text.Order
import ExprLang.Proofs.Value.Insertion
import ExprLang.Value.Text

/-!
# Map literals

A map literal whose keys are keys has a map as its value (`eval_map_of_entries`): it goes through its keys in ascending
order (`Key.lt_iff_precedes`) and gives for each the value of its last entry. So the order of entries with different
keys and entries whose key comes again have no part in the value (`eval_map_literal`). A value that holds a
not-a-number is not identical to itself, though; so it is not identical to that of a reordered literal either
(`not_identical_of_reordered`).
-/

namespace ExprLang

/-! ### The order of keys -/

namespace Key

/-- The place of the kind of a key. -/
def rank : Key → Nat
  | bool _ => 0
  | int _ => 1
  | uint _ => 2
  | string _ => 3

/-- Booleans come first, then signed and then unsigned integers, all by their value, and then texts by their bytes. -/
def Precedes : Key → Key → Prop
  | bool a, bool b => a = false ∧ b = true
  | int a, int b => a.toInt < b.toInt
  | uint a, uint b => a.toNat < b.toNat
  | string a, string b => Utf8.encode a.toList < Utf8.encode b.toList
  | a, b => a.rank < b.rank

theorem lt_iff_precedes (a b : Key) : a < b ↔ a.Precedes b := by
  show Key.lt a b ↔ a.Precedes b
  cases a with
  | bool a => cases b with
    | bool b => cases a <;> cases b <;> simp [Key.lt, Precedes]
    | _ => simp [Key.lt, Precedes, rank]
  | int a => cases b with
    | int b => exact Int64.lt_iff_toInt_lt
    | _ => simp [Key.lt, Precedes, rank]
  | uint a => cases b with
    | uint b => exact UInt64.lt_iff_toNat_lt
    | _ => simp [Key.lt, Precedes, rank]
  | string a => cases b with
    | string b => exact String.lt_iff_toList_lt.trans Utf8.encode_lt_encode_iff.symm
    | _ => simp [Key.lt, Precedes, rank]

end Key

theorem Key.toValue_injective : Function.Injective Key.toValue := by
  intro k l h
  cases k <;> cases l <;> cases h <;> rfl

theorem Value.identical_self_iff {v : Value} : v.identical v = true ↔ v.IsNaNFree := by
  constructor
  · intro h
    exact equals_self_iff.mp ((identical_iff_equals v v).mp h).1
  · exact identical_self

/-! ### Entries -/

namespace Expr

variable {α : Type} {ctx : Context} {entries entries' : List (Expr α × Expr α)} {es : List (Key × Value)}

/-- A key and a value, of the expressions that have them. -/
def HasEntry (ctx : Context) (e : Expr α × Expr α) (p : Key × Value) : Prop :=
  e.1.eval ctx = .ok p.1.toValue ∧ e.2.eval ctx = .ok p.2

theorem entryKey_toValue (k : Key) : Operation.entryKey k.toValue = .ok k := by
  cases k <;> rfl

theorem evalEntries_of_hasEntry (h : List.Forall₂ (HasEntry ctx) entries es) : evalEntries ctx entries = .ok es := by
  induction h with
  | nil => rfl
  | @cons e p _ _ he _ ih =>
    obtain ⟨hkey, hvalue⟩ := he
    rw [evalEntries, hkey, hvalue, ih]
    show Except.bind (Operation.entryKey _) _ = _
    rw [entryKey_toValue]
    rfl

/-- The value of a map literal is the map of its entries. -/
theorem eval_map_of_entries (note : α) (h : List.Forall₂ (HasEntry ctx) entries es) :
    (map note entries).eval ctx = .ok (.map (.ofList es)) := by
  rw [eval, evalEntries_of_hasEntry h]
  rfl

/-- The entries of a literal that is cut at an entry. -/
private theorem exists_cut {before after : List (Expr α × Expr α)} {e : Expr α × Expr α}
    (h : List.Forall₂ (HasEntry ctx) (before ++ e :: after) es) : ∃ front p rest, es = front ++ p :: rest ∧
      HasEntry ctx e p ∧ List.Forall₂ (HasEntry ctx) after rest ∧
      List.Forall₂ (HasEntry ctx) (before ++ after) (front ++ rest) := by
  induction before generalizing es with
  | nil =>
    cases h with
    | cons he hafter => exact ⟨[], _, _, rfl, he, hafter, hafter⟩
  | cons b before ih =>
    cases h with
    | cons hb hmore =>
      obtain ⟨front, p, rest, rfl, he, hafter, hothers⟩ := ih hmore
      exact ⟨_ :: front, p, rest, rfl, he, hafter, .cons hb hothers⟩

/-- A literal that is reordered has the same value. -/
theorem eval_map_of_perm (note : α) (h : List.Forall₂ (HasEntry ctx) entries es) (hes : (es.map Prod.fst).Nodup)
    (hperm : entries'.Perm entries) : (map note entries').eval ctx = .ok (.map (.ofList es)) := by
  obtain ⟨es', hes', hsame⟩ := List.perm_comp_forall₂ hperm h
  rw [eval_map_of_entries note hes', KeyMap.ofList_eq_of_perm hsame.symm hes]

/-- A literal without an entry whose key comes again has the same value. -/
theorem eval_map_of_append_cons {before after : List (Expr α × Expr α)} {e : Expr α × Expr α} (note : α)
    (h : List.Forall₂ (HasEntry ctx) (before ++ e :: after) es)
    (hagain : ∃ later ∈ after, later.1.eval ctx = e.1.eval ctx) :
    (map note (before ++ after)).eval ctx = .ok (.map (.ofList es)) := by
  obtain ⟨front, p, rest, rfl, he, hafter, hothers⟩ := exists_cut h
  have hkey : p.1 ∈ rest.map Prod.fst := by
    obtain ⟨later, hlater, hsame⟩ := hagain
    obtain ⟨i, hi, rfl⟩ := List.mem_iff_getElem.mp hlater
    obtain ⟨hlength, hget⟩ := List.forall₂_iff_get.mp hafter
    have hq := (hget i hi (hlength ▸ hi)).1
    rw [List.get_eq_getElem, hsame, he.1] at hq
    rw [Key.toValue_injective (Except.ok.inj hq)]
    exact List.mem_map_of_mem (List.getElem_mem _)
  rw [eval_map_of_entries note hothers, KeyMap.ofList_append_cons hkey]

/-- The value of a map literal goes through its keys in ascending order and gives for each the value of its last entry.
It stays the same when entries with different keys are reordered or an entry whose key comes again is dropped, and it
keeps the two integer keys of one number apart. -/
theorem eval_map_literal (ctx : Context) (note : α) (entries : List (Expr α × Expr α)) (es : List (Key × Value))
    (h : List.Forall₂ (HasEntry ctx) entries es) :
    ∃ m : KeyMap Value, (map note entries).eval ctx = .ok (.map m) ∧
      (m.entries.map Prod.fst).Pairwise Key.Precedes ∧
      (∀ k, m.get? k = KeyMap.lastValue? k es) ∧
      (∀ entries', entries'.Perm entries → (es.map Prod.fst).Nodup →
        ∃ v, (map note entries').eval ctx = .ok v ∧ v = .map m ∧ v.text = (Value.map m).text ∧
          (v.identical (.map m) = true ↔ (Value.map m).IsNaNFree)) ∧
      (∀ before e after, entries = before ++ e :: after → (∃ later ∈ after, later.1.eval ctx = e.1.eval ctx) →
        (map note (before ++ after)).eval ctx = .ok (.map m)) ∧
      ∀ (n : Int64) (u : UInt64), .int n ∈ es.map Prod.fst → .uint u ∈ es.map Prod.fst →
        .int n ∈ m.keys ∧ .uint u ∈ m.keys := by
  have hkeys (k : Key) (hk : k ∈ es.map Prod.fst) : k ∈ (KeyMap.ofList es).keys := by
    rw [← KeyMap.exists_get?_iff, KeyMap.get?_ofList]
    exact Option.ne_none_iff_exists'.mp fun hnone => KeyMap.lastValue?_eq_none_iff.mp hnone hk
  refine ⟨.ofList es, eval_map_of_entries note h, ?_, KeyMap.get?_ofList es, ?_, ?_, ?_⟩
  · rw [KeyMap.keys_entries]
    exact (KeyMap.ofList es).ascending.imp fun {k l} hlt => (Key.lt_iff_precedes k l).mp hlt
  · intro entries' hperm hes
    exact ⟨_, eval_map_of_perm note h hes hperm, rfl, rfl, Value.identical_self_iff⟩
  · rintro before e after rfl hagain
    exact eval_map_of_append_cons note h hagain
  · exact fun n u hn hu => ⟨hkeys _ hn, hkeys _ hu⟩

/-- The two integer keys of one number and a boolean, reordered, and behind an entry whose key comes again. -/
theorem eval_map_literal_twins :
    let ctx : Context := ⟨.empty, .empty⟩
    let again : Expr Unit × Expr Unit := (literal () (.int 2), literal () (.string "a"))
    let two : Expr Unit × Expr Unit := (literal () (.int 2), literal () .null)
    let twin : Expr Unit × Expr Unit := (literal () (.uint 2), literal () (.string "b"))
    let yes : Expr Unit × Expr Unit := (literal () (.bool true), literal () (.int 7))
    ∃ m : KeyMap Value, (map () [again, two, twin, yes]).eval ctx = .ok (.map m) ∧
      (map () [two, twin, yes]).eval ctx = .ok (.map m) ∧ (map () [yes, two, twin]).eval ctx = .ok (.map m) ∧
      .int 2 ∈ m.keys ∧ .uint 2 ∈ m.keys := by
  intro ctx again two twin yes
  let es : List (Key × Value) := [(.int 2, .null), (.uint 2, .string "b"), (.bool true, .int 7)]
  have hes : List.Forall₂ (HasEntry ctx) [two, twin, yes] es :=
    .cons ⟨rfl, rfl⟩ (.cons ⟨rfl, rfl⟩ (.cons ⟨rfl, rfl⟩ .nil))
  have hagain : List.Forall₂ (HasEntry ctx) [again, two, twin, yes] ((.int 2, .string "a") :: es) :=
    .cons ⟨rfl, rfl⟩ hes
  obtain ⟨m, hm, -, -, hperm, -, htwins⟩ := eval_map_literal ctx () _ es hes
  obtain ⟨m', hm', -, -, -, hdrop, -⟩ := eval_map_literal ctx () _ _ hagain
  have hsame := hdrop [] again [two, twin, yes] rfl ⟨two, List.mem_cons_self, rfl⟩
  obtain rfl : m = m' := Value.map.inj (Except.ok.inj (hm.symm.trans hsame))
  have hreordered : [yes, two, twin].Perm [two, twin, yes] :=
    (List.perm_append_singleton yes [two, twin]).symm
  obtain ⟨v, hv, rfl, -⟩ := hperm [yes, two, twin] hreordered (by decide)
  exact ⟨m, hm', hm, hv, htwins 2 2 (by decide) (by decide)⟩

/-- A literal with a not-a-number: its value is not identical to that of the reordered literal. -/
theorem not_identical_of_reordered : ¬ ∀ (ctx : Context) (entries entries' : List (Expr Unit × Expr Unit))
    (es : List (Key × Value)), List.Forall₂ (HasEntry ctx) entries es → (es.map Prod.fst).Nodup →
    entries'.Perm entries → ∃ v w, (map () entries).eval ctx = .ok v ∧ (map () entries').eval ctx = .ok w ∧
      w.identical v = true := by
  intro h
  let ctx : Context := ⟨fun s => if s = "x" then some (.float (0 / 0)) else none, .empty⟩
  let one : Expr Unit × Expr Unit := (literal () (.int 1), name () "x")
  let two : Expr Unit × Expr Unit := (literal () (.int 2), literal () .null)
  let es : List (Key × Value) := [(.int 1, .float (0 / 0)), (.int 2, .null)]
  have hes : List.Forall₂ (HasEntry ctx) [one, two] es := .cons ⟨rfl, rfl⟩ (.cons ⟨rfl, rfl⟩ .nil)
  have hkeys : (es.map Prod.fst).Nodup := by decide
  have hswap : [two, one].Perm [one, two] := .swap one two []
  obtain ⟨v, w, hv, hw, hidentical⟩ := h ctx [one, two] [two, one] es hes hkeys hswap
  rw [eval_map_of_entries () hes] at hv
  rw [eval_map_of_perm () hes hkeys hswap] at hw
  obtain rfl := Except.ok.inj hv
  obtain rfl := Except.ok.inj hw
  have hnot : (Value.map (.ofList es)).identical (.map (.ofList es)) = false := by decide +kernel
  rw [hnot] at hidentical
  cases hidentical

end Expr

end ExprLang
