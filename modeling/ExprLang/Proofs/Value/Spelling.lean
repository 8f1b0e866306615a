import ExprLang.Proofs.Syntax.Reading
import ExprLang.Proofs.Token.Layout
import ExprLang.Proofs.Value.Structure
import ExprLang.Value.Text

/-!
# The spelling of values

A value is spelled by tokens and by a tree. Its text lays the tokens out when all its floats are finite, the tokens can
be told apart in the text, and by the grammar they spell the tree, nested as deep as the value is high.
-/

namespace ExprLang

/-- The constant that a key is. -/
def Key.literal : Key → Literal
  | bool b => .bool b
  | int n => .int n
  | uint n => .uint n
  | string s => .string s

theorem Key.text_eq (k : Key) : k.text = k.literal.text := by
  cases k <;> rfl

namespace Value

/-- Runs of tokens with commas between them. -/
def separated : List (List Token) → List Token
  | [] => []
  | T :: Ts => T ++ Ts.flatMap fun S => .symbol .comma :: S

mutual

/-- The tokens of the text of a value. -/
def tokens : Value → List Token
  | null => [.literal .null]
  | bool b => [.literal (.bool b)]
  | int n => [.literal (.int n)]
  | uint n => [.literal (.uint n)]
  | float f => [.literal (.float f)]
  | string s => [.literal (.string s)]
  | bytes bs => [.literal (.bytes bs)]
  | list items => .symbol .openBracket :: (separated (itemTokens items) ++ [.symbol .closeBracket])
  | map m =>
    .symbol .openBrace :: (separated ((List.finRange m.keys.length).map fun i =>
      .literal (m.keys.get i).literal :: .symbol .colon :: (m.value i).tokens) ++ [.symbol .closeBrace])
  termination_by structural v => v

/-- The tokens of each item of a list. -/
def itemTokens : List Value → List (List Token)
  | [] => []
  | v :: vs => v.tokens :: itemTokens vs
  termination_by structural vs => vs

end

mutual

/-- The tree of a value. -/
def tree : Value → Tree
  | null => .literal () .null
  | bool b => .literal () (.bool b)
  | int n => .literal () (.int n)
  | uint n => .literal () (.uint n)
  | float f => .literal () (.float f)
  | string s => .literal () (.string s)
  | bytes bs => .literal () (.bytes bs)
  | list items => .list () (itemTrees items)
  | map m =>
    .map () ((List.finRange m.keys.length).map fun i => (.literal () (m.keys.get i).literal, (m.value i).tree))
  termination_by structural v => v

/-- The tree of each item of a list. -/
def itemTrees : List Value → List Tree
  | [] => []
  | v :: vs => v.tree :: itemTrees vs
  termination_by structural vs => vs

end

mutual

/-- How deep a value nests. Scalars, which keys are, and empty containers have height 1. -/
def height : Value → Nat
  | list items => 1 + (itemHeights items).foldr max 0
  | map m => 1 + ((List.finRange m.keys.length).map fun i => max 1 (m.value i).height).foldr max 0
  | _ => 1
  termination_by structural v => v

/-- The height of each item of a list. -/
def itemHeights : List Value → List Nat
  | [] => []
  | v :: vs => v.height :: itemHeights vs
  termination_by structural vs => vs

end

variable {v : Value} {items : List Value} {m : KeyMap Value} {n : Nat}

theorem itemTexts_eq (items : List Value) : itemTexts items = items.map text := by
  induction items with
  | nil => rfl
  | cons v vs ih => rw [itemTexts, ih, List.map_cons]

theorem itemTokens_eq (items : List Value) : itemTokens items = items.map tokens := by
  induction items with
  | nil => rfl
  | cons v vs ih => rw [itemTokens, ih, List.map_cons]

theorem itemTrees_eq (items : List Value) : itemTrees items = items.map tree := by
  induction items with
  | nil => rfl
  | cons v vs ih => rw [itemTrees, ih, List.map_cons]

theorem itemHeights_eq (items : List Value) : itemHeights items = items.map height := by
  induction items with
  | nil => rfl
  | cons v vs ih => rw [itemHeights, ih, List.map_cons]

/-! ### Finite values -/

/-- All floats in the value, at any depth, are finite. -/
def IsFinite (v : Value) : Prop := ∀ f, Inside (float f) v → f.isFinite = true

instance : Decidable v.IsFinite := inferInstanceAs (Decidable (∀ f, Inside (float f) v → f.isFinite = true))

theorem isFinite_item (h : (list items).IsFinite) (hv : v ∈ items) : v.IsFinite := fun f hf => h f (.item hv hf)

theorem isFinite_value (h : (map m).IsFinite) (i : Fin m.keys.length) : (m.value i).IsFinite :=
  fun f hf => h f (.entry i hf)

/-! ### Scalars -/

theorem exists_literal (hv : v.IsScalar) :
    ∃ l, l.toValue = v ∧ v.tokens = [.literal l] ∧ v.tree = .literal () l := by
  cases v with
  | null => exact ⟨.null, rfl, rfl, rfl⟩
  | bool b => exact ⟨.bool b, rfl, rfl, rfl⟩
  | int n => exact ⟨.int n, rfl, rfl, rfl⟩
  | uint n => exact ⟨.uint n, rfl, rfl, rfl⟩
  | float f => exact ⟨.float f, rfl, rfl, rfl⟩
  | string s => exact ⟨.string s, rfl, rfl, rfl⟩
  | bytes bs => exact ⟨.bytes bs, rfl, rfl, rfl⟩
  | list items => simp [IsScalar, list?] at hv
  | map m => simp [IsScalar, map?] at hv

theorem isFinite_literal {l : Literal} (h : l.toValue.IsFinite) : l.IsFinite := by
  cases l with
  | float f => exact h f .self
  | _ => trivial

/-- The texts of a constant as a value and as a token are the same; the words for infinities are not. -/
theorem text_literal {l : Literal} (hl : l.IsFinite) : l.toValue.text = l.text := by
  cases l with
  | float f =>
    obtain ⟨negative, m, e, hfinite⟩ := (Binary64.isFinite_iff f).mp hl
    rw [Literal.toValue, text, floatText, Literal.text, Binary64.write, Binary64.write, hfinite]
  | null | bool b | int n | uint n | string s | bytes bs => rw [Literal.toValue, text, Literal.text]

/-! ### Heights -/

private theorem le_foldr_max {k : Nat} {ks : List Nat} (h : k ∈ ks) : k ≤ ks.foldr max 0 := by
  induction ks with
  | nil => nomatch h
  | cons j js ih =>
    rw [List.foldr_cons]
    rcases List.mem_cons.mp h with rfl | h
    · omega
    · have := ih h
      omega

theorem one_le_height : ∀ v : Value, 1 ≤ v.height
  | list _ | map _ => Nat.le_add_right 1 _
  | null | bool _ | int _ | uint _ | float _ | string _ | bytes _ => Nat.le_refl 1

theorem height_item_lt (h : v ∈ items) : v.height < (list items).height := by
  have := le_foldr_max (List.mem_map_of_mem (f := height) h)
  rw [height, itemHeights_eq]
  omega

theorem height_value_lt (m : KeyMap Value) (i : Fin m.keys.length) : (m.value i).height < (map m).height := by
  have hmem : max 1 (m.value i).height ∈ (List.finRange m.keys.length).map fun i => max 1 (m.value i).height :=
    List.mem_map.mpr ⟨i, List.mem_finRange i, rfl⟩
  have := le_foldr_max hmem
  rw [height]
  omega

/-! ### Texts -/

private theorem layout_cons (t : Token) (T : List Token) : layout (t :: T) = written t ++ layout T := rfl

private theorem layout_append (S T : List Token) : layout (S ++ T) = layout S ++ layout T := List.flatMap_append

private theorem layout_literal (l : Literal) : layout [.literal l] = l.text.toList := by
  rw [layout_cons]
  exact List.append_nil _

theorem layout_separated (Ts : List (List Token)) :
    layout (separated Ts) = [',', ' '].intercalate (Ts.map layout) := by
  cases Ts with
  | nil => rfl
  | cons T Ts =>
    induction Ts generalizing T with
    | nil => simp [separated]
    | cons S Ts ih =>
      have := ih S
      rw [separated] at this ⊢
      rw [List.flatMap_cons, List.cons_append, layout_append, layout_cons, this]
      simp [List.intercalate, written]

private theorem toList_commas (texts : List String) :
    (commas texts).toList = [',', ' '].intercalate (texts.map String.toList) := by
  rw [commas, String.toList_intercalate]
  rfl

/-- The text of a value without infinities and not-a-number is the layout of its tokens. -/
theorem toList_text (hv : v.IsFinite) : v.text.toList = layout v.tokens := by
  induction v using induction with
  | scalar v hscalar =>
    obtain ⟨l, rfl, htokens, _⟩ := exists_literal hscalar
    rw [text_literal (isFinite_literal hv), htokens, layout_literal]
  | list items ih =>
    have hitems : (items.map text).map String.toList = (items.map tokens).map layout := by
      rw [List.map_map, List.map_map]
      exact List.map_congr_left fun v hmem => ih v hmem (isFinite_item hv hmem)
    rw [text, itemTexts_eq, tokens, itemTokens_eq, layout_cons, layout_append, layout_separated, ← hitems,
      ← toList_commas]
    simp [layout, written, Token.text, Symbol.text]
  | map m ih =>
    have hentries : ((List.finRange m.keys.length).map fun i =>
          (m.keys.get i).text ++ ": " ++ (m.value i).text).map String.toList =
        ((List.finRange m.keys.length).map fun i =>
          .literal (m.keys.get i).literal :: .symbol .colon :: (m.value i).tokens).map layout := by
      rw [List.map_map, List.map_map]
      refine List.map_congr_left fun i _ => ?_
      rw [Function.comp_apply, Function.comp_apply, layout_cons, layout_cons, ← ih i (isFinite_value hv i),
        Key.text_eq]
      simp [written, Token.text]
    rw [text, tokens, layout_cons, layout_append, layout_separated, ← hentries, ← toList_commas]
    simp [layout, written, Token.text, Symbol.text]

/-! ### Legibility -/

section Legible

variable {ended : Bool} {S T : List Token} {Ts : List (List Token)}

private theorem legible_symbol {y : Symbol} (hy : y ∈ punctuation) (hS : Legible (Token.symbol y).endsOperand S) :
    Legible ended (.symbol y :: S) := ⟨hy, hS⟩

private theorem legible_literal {l : Literal} (hl : l.IsFinite) (hS : Legible true S) :
    Legible false (.literal l :: S) := ⟨⟨hl, rfl⟩, hS⟩

/-- Runs with commas between them are legible in front of a symbol when each run is legible in front of what can follow
an operand. -/
private theorem legible_separated {y : Symbol} (hTs : ∀ T ∈ Ts, ∀ S, Legible true S → Legible false (T ++ S))
    (hy : y ∈ punctuation) (hS : Legible (Token.symbol y).endsOperand S) :
    Legible false (separated Ts ++ .symbol y :: S) := by
  cases Ts with
  | nil => exact legible_symbol hy hS
  | cons T Ts =>
    rw [separated, List.append_assoc]
    refine hTs T List.mem_cons_self _ ?_
    replace hTs := fun T hT => hTs T (List.mem_cons_of_mem _ hT)
    -- behind a run, a comma or the closing symbol follows an operand
    induction Ts with
    | nil => exact legible_symbol hy hS
    | cons U Ts ih =>
      have hmore := ih fun T hT => hTs T (List.mem_cons_of_mem _ hT)
      rw [List.flatMap_cons, List.cons_append, List.cons_append, List.append_assoc]
      exact legible_symbol (by decide) (hTs U List.mem_cons_self _ hmore)

theorem legible_tokens (hv : v.IsFinite) (hS : Legible true S) : Legible false (v.tokens ++ S) := by
  induction v using induction generalizing S with
  | scalar v hscalar =>
    obtain ⟨l, rfl, htokens, _⟩ := exists_literal hscalar
    rw [htokens]
    exact legible_literal (isFinite_literal hv) hS
  | list items ih =>
    have hitems : ∀ T ∈ items.map tokens, ∀ S, Legible true S → Legible false (T ++ S) := by
      intro T hT S hS
      obtain ⟨w, hw, rfl⟩ := List.mem_map.mp hT
      exact ih w hw (isFinite_item hv hw) hS
    rw [tokens, itemTokens_eq, List.cons_append, List.append_assoc]
    exact legible_symbol (by decide) (legible_separated hitems (by decide) hS)
  | map m ih =>
    rw [tokens, List.cons_append, List.append_assoc]
    refine legible_symbol (by decide) (legible_separated ?_ (by decide) hS)
    intro T hT S hS
    obtain ⟨i, _, rfl⟩ := List.mem_map.mp hT
    have hkey : (m.keys.get i).literal.IsFinite := by
      cases m.keys.get i <;> trivial
    exact legible_literal hkey (legible_symbol (by decide) (ih i (isFinite_value hv i) hS))

end Legible

/-! ### Derivations -/

section Derivation

open Grammar

theorem expression_of_primary {T : List Token} {e : Tree} (h : Primary (Expression n) T e) : Expression (n + 1) T e :=
  expression_of_suffixed (.primary h)

private theorem enclosed_separated {β : Type} {item : Phrase β} {trailing : Bool} {Ts : List (List Token)}
    {xs : List β} (h : List.Forall₂ item Ts xs) : Enclosed item trailing (separated Ts) xs := by
  cases h with
  | nil => exact .nothing
  | cons hx hmore => exact .series hx (more_of_forall₂ hmore)

/-- The tokens of a value spell its tree, nested as deep as the value is high. -/
theorem expression_tokens (h : v.height ≤ n) : Expression n v.tokens v.tree := by
  induction v using induction generalizing n with
  | scalar v hscalar =>
    obtain ⟨l, rfl, htokens, htree⟩ := exists_literal hscalar
    obtain ⟨n, rfl⟩ := Nat.exists_eq_add_of_le' ((one_le_height _).trans h)
    rw [htokens, htree]
    exact expression_of_primary (.literal l)
  | list items ih =>
    obtain ⟨n, rfl⟩ := Nat.exists_eq_add_of_le' ((one_le_height _).trans h)
    have hitems : List.Forall₂ (Expression n) (items.map tokens) (items.map tree) := by
      rw [List.forall₂_map_left_iff, List.forall₂_map_right_iff, List.forall₂_same]
      intro v hv
      have := height_item_lt hv
      exact ih v hv (by omega)
    rw [tokens, tree, itemTokens_eq, itemTrees_eq]
    exact expression_of_primary (.list (enclosed_separated hitems))
  | map m ih =>
    obtain ⟨n, rfl⟩ := Nat.exists_eq_add_of_le' ((one_le_height _).trans h)
    rw [tokens, tree]
    refine expression_of_primary (.map (enclosed_separated ?_))
    rw [List.forall₂_map_left_iff, List.forall₂_map_right_iff, List.forall₂_same]
    intro i _
    have hlt := height_value_lt m i
    -- keys are scalars and nest no deeper than the values
    obtain ⟨n, rfl⟩ : ∃ k, n = k + 1 := by
      have := one_le_height (m.value i)
      exact ⟨n - 1, by omega⟩
    exact .mk (expression_of_primary (.literal _)) (ih i (by omega))

end Derivation

end Value

end ExprLang
