import ExprLang.Environment
import ExprLang.Proofs.Eval.Notes
import ExprLang.Proofs.Value.Entries
import ExprLang.Proofs.Value.Equality
import ExprLang.Proofs.Value.Spelling

/-!
# Texts of values are read back

The tree of a value evaluates to the value, whatever names and functions mean, and the text of the value is read as this
tree where the nesting allows for the height of the value (`eval_text`).
-/

namespace ExprLang

namespace Value

variable {v : Value} {c : Context}

/-! ### Evaluating the tree of a value -/

private theorem evalItems_trees {items : List Value} (h : ∀ v ∈ items, v.tree.eval c = .ok v) :
    Expr.evalItems c (items.map tree) = .ok items := by
  induction items with
  | nil => rfl
  | cons v vs ih =>
    have hvs := ih fun w hw => h w (List.mem_cons_of_mem _ hw)
    rw [List.map_cons, Expr.evalItems, h v List.mem_cons_self, hvs]
    rfl

private theorem entryKey_literal (k : Key) : Operation.entryKey k.literal.toValue = .ok k := by
  cases k <;> rfl

private theorem evalEntries_trees {m : KeyMap Value} (h : ∀ i, (m.value i).tree.eval c = .ok (m.value i))
    (positions : List (Fin m.keys.length)) :
    Expr.evalEntries c (positions.map fun i => (.literal () (m.keys.get i).literal, (m.value i).tree)) =
      .ok (positions.map fun i => (m.keys.get i, m.value i)) := by
  induction positions with
  | nil => rfl
  | cons i is ih =>
    rw [List.map_cons, List.map_cons, Expr.evalEntries, Expr.eval, h i, ih]
    show Except.bind (Operation.entryKey _) _ = _
    rw [entryKey_literal]
    rfl

theorem eval_tree (v : Value) : v.tree.eval c = .ok v := by
  induction v using induction with
  | scalar v hv =>
    obtain ⟨l, rfl, _, htree⟩ := exists_literal hv
    rw [htree]
    rfl
  | list items ih =>
    rw [tree, itemTrees_eq, Expr.eval, evalItems_trees ih]
    rfl
  | map m ih =>
    rw [tree, Expr.eval, evalEntries_trees ih, ← KeyMap.entries_eq_map]
    show Except.ok (ofEntries m.entries) = _
    rw [ofEntries, KeyMap.ofList_entries]

/-! ### Reading the text of a value -/

theorem IsFinite.isNaNFree (hv : v.IsFinite) : v.IsNaNFree := by
  intro f hf
  obtain ⟨negative, m, e, hfinite⟩ := (Binary64.isFinite_iff f).mp (hv f hf)
  rw [Bool.eq_false_iff, ne_eq, Binary64.isNaN_iff, hfinite]
  simp

/-- The text of a value is read as its tree. -/
theorem parse_text {limit : Nat} (hv : v.IsFinite) (hheight : v.height ≤ limit) :
    ∃ e, parse limit v.text = .ok e ∧ e.erase = v.tree := by
  have hlegible : Legible false v.tokens := by
    have := @legible_tokens v [] hv trivial
    rwa [List.append_nil] at this
  obtain ⟨tokens, hlex, hkinds⟩ := exists_lex_layout hlegible
  have hderived : Grammar.Expression limit (kinds tokens) v.tree := by
    rw [kinds, hkinds]
    exact expression_tokens hheight
  obtain ⟨e, he, htree⟩ := parseTokens_eq_ok_iff.mpr hderived
  rw [← toList_text hv, String.ofList_toList] at hlex
  exact ⟨e, by rw [parse, hlex]; exact he, htree⟩

/-- The text of a value is source text for it: where all floats are finite and the nesting allows for the height, the
text evaluates to the value again, whatever names and functions mean. -/
theorem eval_text (env : Environment) (scope : Scope) (v : Value) (hfinite : v.IsFinite)
    (hheight : v.height ≤ env.nesting) : env.eval v.text scope = .ok v ∧ v.identical v = true := by
  refine ⟨?_, identical_self hfinite.isNaNFree⟩
  obtain ⟨e, hparse, htree⟩ := parse_text hfinite hheight
  have hrun : (env.program e).run scope = .ok v := by
    rw [Program.run, Environment.program, ← Expr.eval_erase, htree, eval_tree]
  rw [Environment.eval, Environment.compile, hparse, Except.map]
  dsimp only
  rw [hrun]

/-- Escapes, signs behind every kind of bracket and separator, and the least integer. -/
theorem eval_text_nested :
    let v := list [int Int64.minValue, float (-0.5), string "\"\\\n", bytes [0x22, 0xff],
      ofEntries [(.int Int64.minValue, list []), (.string "\x7f", list [int (-1), float (-1e300)])]]
    v.IsFinite ∧ v.height ≤ Environment.standard.nesting ∧
      Environment.standard.eval v.text .empty = .ok v ∧ v.identical v = true := by
  intro v
  have hfinite : v.IsFinite := by decide +kernel
  have hheight : v.height ≤ Environment.standard.nesting := by decide +kernel
  exact ⟨hfinite, hheight, eval_text Environment.standard .empty v hfinite hheight⟩

end Value

end ExprLang
