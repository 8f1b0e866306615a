import ExprLang.Proofs.Syntax.Reading

/-!
# The height of trees

How high the tree of an expression is, given how deep its expressions nest and how many suffixes (calls, method calls
and indexes) its operands carry. With at most `k` suffixes on an operand, each level of nesting makes a tree higher by
at most `8 + k`: one node for the condition, six for the levels of operators and signs, `k` for the suffixes and one
for the brackets (`height_lt_of_suffixBounded`). The bound is attained for every `k` (`height_tower`), so a bound on
the nesting alone bounds no heights: suffixes stand one on the other without nesting.
-/

namespace ExprLang

namespace Expr

variable {α β : Type}

mutual

/-- The height of a tree: one for a leaf, otherwise one more than the highest child. -/
def height : Expr α → Nat
  | literal _ _ | name _ _ => 1
  | list _ items => 1 + heightItems items
  | map _ entries => 1 + heightEntries entries
  | unary _ _ _ e => 1 + e.height
  | chain _ _ ⟨first, _, second, rest⟩ => 1 + max first.height (max second.height (heightFollowing rest))
  | relation _ _ l r => 1 + max l.height r.height
  | ternary _ c y n => 1 + max c.height (max y.height n.height)
  | index _ b i => 1 + max b.height i.height
  | call _ f args => 1 + max f.height (heightItems args)

/-- The height of the highest item. -/
def heightItems : List (Expr α) → Nat
  | [] => 0
  | e :: es => max e.height (heightItems es)

/-- The height of the highest key or value. -/
def heightEntries : List (Expr α × Expr α) → Nat
  | [] => 0
  | (k, v) :: es => max (max k.height v.height) (heightEntries es)

/-- The height of the highest operand. -/
def heightFollowing : List (BinaryOp × Expr α) → Nat
  | [] => 0
  | (_, e) :: es => max e.height (heightFollowing es)

end

mutual

theorem height_mapNote (f : α → β) : ∀ e : Expr α, (e.mapNote f).height = e.height
  | literal _ _ | name _ _ => rfl
  | list _ items => by rw [mapNote, height, height, height_mapItems f items]
  | map _ entries => by rw [mapNote, height, height, height_mapEntries f entries]
  | unary _ _ _ e => by rw [mapNote, height, height, height_mapNote f e]
  | chain _ _ ⟨first, _, second, rest⟩ => by
    rw [mapNote, height, height, height_mapNote f first, height_mapNote f second, height_mapFollowing f rest]
  | relation _ _ l r => by rw [mapNote, height, height, height_mapNote f l, height_mapNote f r]
  | ternary _ c y n => by
    rw [mapNote, height, height, height_mapNote f c, height_mapNote f y, height_mapNote f n]
  | index _ b i => by rw [mapNote, height, height, height_mapNote f b, height_mapNote f i]
  | call _ g args => by rw [mapNote, height, height, height_mapNote f g, height_mapItems f args]

private theorem height_mapItems (f : α → β) : ∀ es : List (Expr α), heightItems (mapItems f es) = heightItems es
  | [] => rfl
  | e :: es => by rw [mapItems, heightItems, heightItems, height_mapNote f e, height_mapItems f es]

private theorem height_mapEntries (f : α → β) :
    ∀ es : List (Expr α × Expr α), heightEntries (mapEntries f es) = heightEntries es
  | [] => rfl
  | (k, v) :: es => by
    rw [mapEntries, heightEntries, heightEntries, height_mapNote f k, height_mapNote f v, height_mapEntries f es]

private theorem height_mapFollowing (f : α → β) :
    ∀ es : List (BinaryOp × Expr α), heightFollowing (mapFollowing f es) = heightFollowing es
  | [] => rfl
  | (_, e) :: es => by
    rw [mapFollowing, heightFollowing, heightFollowing, height_mapNote f e, height_mapFollowing f es]

end

theorem height_erase (e : Expr α) : e.erase.height = e.height := height_mapNote _ e

end Expr

namespace Grammar

open ExprLang.Expr (heightItems heightEntries heightFollowing)

variable {k b : Nat} {nested member operand : Phrase Tree}

/-! ### Operands with few suffixes -/

/-- An operand with at most `k` suffixes. -/
def MemberUpTo (k : Nat) (nested : Phrase Tree) : Phrase Tree := fun T e => ∃ j ≤ k, Suffixed nested j T e

/-- The expressions that nest at most `n` deep and have at most `k` suffixes on each operand. -/
def SuffixBounded (k : Nat) : Nat → Phrase Tree
  | 0 => fun _ _ => False
  | n + 1 => Conditional (MemberUpTo k (SuffixBounded k n)) (SuffixBounded k n)

private theorem le_length_of_suffixed {T : List Token} {e : Tree} (h : Suffixed nested k T e) : k ≤ T.length := by
  induction h with
  | primary => exact Nat.zero_le _
  | call _ _ ih | method _ _ ih | index _ _ ih =>
    simp only [List.length_append, List.length_cons]
    omega

theorem expression_of_suffixBounded (l n : Nat) : Within l (SuffixBounded k n) (Expression n) := by
  induction n with
  | zero => exact fun _ _ _ hT => hT.elim
  | succ n ih => exact conditional_within (fun T e hl ⟨j, _, hj⟩ => ⟨j, suffixed_within ih j T e hl hj⟩) ih

/-- An expression has no more suffixes than tokens. -/
theorem suffixBounded_of_expression (l n : Nat) : Within l (Expression n) (SuffixBounded l n) := by
  induction n with
  | zero => exact fun _ _ _ hT => hT.elim
  | succ n ih =>
    refine conditional_within (fun T e hl ⟨j, hj⟩ => ⟨j, ?_, suffixed_within ih j T e hl hj⟩) ih
    exact Nat.le_trans (le_length_of_suffixed hj) hl

/-! ### The bound -/

/-- Each phrase has a tree lower than `b`. -/
def Lower (b : Nat) (P : Phrase Tree) : Prop := ∀ T e, P T e → e.height < b

private theorem heightItems_lt (h : Lower b nested) {trailing : Bool} {T : List Token} {es : List Tree}
    (hT : Enclosed nested trailing T es) : heightItems es < max 1 b := by
  have more {S xs} (hS : More nested S xs) : heightItems xs < max 1 b := by
    induction hS with
    | nil => rw [heightItems]; omega
    | cons hx _ ih =>
      have := h _ _ hx
      rw [heightItems]; omega
  cases hT with
  | nothing => rw [heightItems]; omega
  | series hx hm | comma _ hx hm =>
    have := h _ _ hx
    have := more hm
    rw [heightItems]; omega

private theorem heightEntries_lt (h : Lower b nested) {trailing : Bool} {T : List Token} {es : List (Tree × Tree)}
    (hT : Enclosed (Entry nested) trailing T es) : heightEntries es < max 1 b := by
  have entry {S k v} (hS : Entry nested S (k, v)) : max k.height v.height < b := by
    cases hS with
    | mk hk hv =>
      have := h _ _ hk
      have := h _ _ hv
      omega
  have more {S xs} (hS : More (Entry nested) S xs) : heightEntries xs < max 1 b := by
    induction hS with
    | nil => rw [heightEntries]; omega
    | @cons _ _ x _ hx _ ih =>
      have := entry hx
      rw [heightEntries]; omega
  cases hT with
  | nothing => rw [heightEntries]; omega
  | series hx hm | comma _ hx hm =>
    have := entry hx
    have := more hm
    rw [heightEntries]; omega

private theorem height_primary (h : Lower b nested) : Lower (1 + max 1 b) (Primary nested) := by
  intro T e hT
  cases hT with
  | literal | name => rw [Expr.height]; omega
  | group he =>
    have := h _ _ he
    omega
  | list he =>
    have := heightItems_lt h he
    rw [Expr.height]; omega
  | map he =>
    have := heightEntries_lt h he
    rw [Expr.height]; omega

private theorem height_suffixed (h : Lower b nested) (k : Nat) : Lower (k + (1 + max 1 b)) (Suffixed nested k) := by
  intro T e hT
  induction hT with
  | primary hp =>
    have := height_primary h _ _ hp
    omega
  | call _ ha ih =>
    have := heightItems_lt h ha
    rw [Expr.height]; omega
  | method _ ha ih =>
    have := heightItems_lt h ha
    rw [Expr.height, Expr.height, heightItems]; omega
  | index _ hi ih =>
    have := h _ _ hi
    rw [Expr.height]; omega

private theorem height_unary (h : Lower b member) : Lower (1 + b) (Unary member) := by
  intro T e hT
  cases hT with
  | bare hm =>
    have := h _ _ hm
    omega
  | signed _ _ hm =>
    have := h _ _ hm
    rw [Expr.height]; omega

private theorem height_run (h : Lower b operand) (level : Level) : Lower (1 + b) (Run operand level) := by
  have following {S es} (hS : Following operand (operators level) S es) : heightFollowing es < max 1 b := by
    induction hS with
    | nil => rw [heightFollowing]; omega
    | cons _ ho _ ih =>
      have := h _ _ ho
      rw [heightFollowing]; omega
  intro T e hT
  cases hT with
  | lone ho =>
    have := h _ _ ho
    omega
  | chain ho hf =>
    have := h _ _ ho
    have := following hf
    rw [heightFollowing] at this
    rw [Expr.height]; omega

private theorem height_relation (h : Lower b operand) : Lower (1 + b) (Relation operand) := by
  intro T e hT
  cases hT with
  | lone ho =>
    have := h _ _ ho
    omega
  | compare hl _ hr =>
    have := h _ _ hl
    have := h _ _ hr
    rw [Expr.height]; omega

private theorem height_disjunction (h : Lower b member) : Lower (6 + b) (Disjunction member) := by
  have all := height_run (height_run (height_relation (height_run (height_run (height_unary h) .multiplicative)
    .additive)) .and) .or
  intro T e hT
  have := all T e hT
  omega

/-- With at most `k` suffixes on an operand, a level of nesting adds at most `8 + k` to the height. -/
theorem height_lt_of_suffixBounded (k n : Nat) : Lower ((8 + k) * n) (SuffixBounded k n) := by
  induction n with
  | zero => exact fun _ _ hT => hT.elim
  | succ n ih =>
    -- one for a primary, `k` for its suffixes and six for the operators; the conditional adds another
    have hd : Lower (6 + (k + (1 + max 1 ((8 + k) * n)))) (Disjunction (MemberUpTo k (SuffixBounded k n))) := by
      apply height_disjunction
      rintro T e ⟨j, hj, hs⟩
      have := height_suffixed ih j _ _ hs
      omega
    intro T e hT
    rw [Nat.mul_succ]
    cases hT with
    | plain hD =>
      have := hd _ _ hD
      omega
    | ternary hC hY hN =>
      have := hd _ _ hC
      have := hd _ _ hY
      have := ih _ _ hN
      rw [Expr.height]; omega

/-! ### Trees of the greatest height -/

/-- An operand of one token. -/
def dot : Tree := .name () "x"

/-- An operand with `k` calls without arguments behind it. -/
def calls : Nat → List Token × Tree → List Token × Tree
  | 0, p => p
  | k + 1, p => ((calls k p).1 ++ [.symbol .openParen, .symbol .closeParen], .call () (calls k p).2 [])

/-- An operand with a sign in front and a further operand of each level behind it. -/
def levels (p : List Token × Tree) : List Token × Tree :=
  let neg := Expr.unary () .neg 1 p.2
  let mul := Expr.chain () .multiplicative ⟨neg, .mul, dot, []⟩
  let add := Expr.chain () .additive ⟨mul, .add, dot, []⟩
  let lt := Expr.relation () .lt add dot
  let and := Expr.chain () .and ⟨lt, .and, dot, []⟩
  (.symbol .minus :: (p.1 ++ [.symbol .star, .name "x", .symbol .plus, .name "x", .symbol .lt, .name "x", .symbol .and,
    .name "x", .symbol .or, .name "x"]), .chain () .or ⟨and, .or, dot, []⟩)

/-- An expression that nests `n + 1` deep, with a condition and a list around each nested one. -/
def tower (k : Nat) : Nat → List Token × Tree
  | 0 => levels (calls k ([.name "x"], dot))
  | n + 1 =>
    let inner := tower k n
    let outer := levels (calls k (.symbol .openBracket :: (inner.1 ++ [.symbol .closeBracket]), .list () [inner.2]))
    (outer.1 ++ [.symbol .question, .name "x", .symbol .colon, .name "x"], .ternary () outer.2 dot dot)

private theorem suffixed_calls {j : Nat} {p : List Token × Tree} (h : Suffixed nested j p.1 p.2) (k : Nat) :
    Suffixed nested (j + k) (calls k p).1 (calls k p).2 := by
  induction k with
  | zero => exact h
  | succ k ih => exact .call ih .nothing

private theorem run_pair (level : Level) (y : Symbol) (op : BinaryOp) (hy : (y, op) ∈ operators level)
    {T S : List Token} {e f : Tree} (he : operand T e) (hf : operand S f) :
    Run operand level (T ++ .symbol y :: S) (.chain () level ⟨e, op, f, []⟩) := by
  have := Run.chain he (.cons hy hf .nil)
  rwa [List.append_nil] at this

private theorem unary_dot : Unary (MemberUpTo k nested) [.name "x"] dot :=
  .bare ⟨0, Nat.zero_le k, .primary (.name "x")⟩

private theorem disjunction_dot : Disjunction (MemberUpTo k nested) [.name "x"] dot :=
  .lone (.lone (.lone (.lone (.lone unary_dot))))

private theorem disjunction_levels {p : List Token × Tree} (h : MemberUpTo k nested p.1 p.2) :
    Disjunction (MemberUpTo k nested) (levels p).1 (levels p).2 := by
  have neg : Unary (MemberUpTo k nested) (.symbol .minus :: p.1) (.unary () .neg 1 p.2) := .signed 0 (by decide) h
  have mul := run_pair .multiplicative .star .mul (by decide) neg unary_dot
  have add := run_pair .additive .plus .add (by decide) mul (.lone unary_dot)
  have lt : Relation _ _ _ := .compare add (by decide : (Symbol.lt, BinaryOp.lt) ∈ relations) (.lone (.lone unary_dot))
  have and := run_pair .and .and .and (by decide) lt (.lone (.lone (.lone unary_dot)))
  have or := run_pair .or .or .or (by decide) and (.lone (.lone (.lone (.lone unary_dot))))
  simpa [levels, Disjunction] using or

private theorem memberUpTo_calls {p : List Token × Tree} (h : Primary nested p.1 p.2) (k : Nat) :
    MemberUpTo k nested (calls k p).1 (calls k p).2 := ⟨0 + k, by omega, suffixed_calls (.primary h) k⟩

/-- The towers are expressions with at most `k` suffixes on an operand. -/
theorem suffixBounded_tower (k n : Nat) : SuffixBounded k (n + 1) (tower k n).1 (tower k n).2 := by
  induction n with
  | zero => exact .plain (disjunction_levels (memberUpTo_calls (.name "x") k))
  | succ n ih =>
    have one : Enclosed (SuffixBounded k (n + 1)) true ((tower k n).1 ++ []) [(tower k n).2] := .series ih .nil
    rw [List.append_nil] at one
    exact .ternary (disjunction_levels (memberUpTo_calls (.list one) k)) disjunction_dot (.plain disjunction_dot)

private theorem height_calls (p : List Token × Tree) (k : Nat) : (calls k p).2.height = k + p.2.height := by
  induction k with
  | zero => rw [calls, Nat.zero_add]
  | succ k ih =>
    rw [calls, Expr.height, heightItems, ih]
    omega

private theorem height_levels (p : List Token × Tree) : (levels p).2.height = 6 + p.2.height := by
  simp only [levels, dot, Expr.height, heightFollowing]
  omega

/-- The towers are as high as the bound allows. -/
theorem height_tower (k n : Nat) : (tower k n).2.height + 1 = (8 + k) * (n + 1) := by
  induction n with
  | zero =>
    rw [tower, height_levels, height_calls, dot, Expr.height]
    omega
  | succ n ih =>
    rw [Nat.mul_succ, ← ih, tower, Expr.height, height_levels, height_calls, Expr.height, heightItems, heightItems, dot,
      Expr.height]
    omega

end Grammar

open Grammar

/-- How the height of a tree that was read depends on the bound `limit` of the nesting and on the number `k` of suffixes
that an operand carries at most: it is below `(8 + k) * limit`, and every tree has such a `k`; it is at most
`9 * limit` for all tokens just where `(k - 1) * limit ≤ 1`, which is to say with at most one suffix on an operand, or
with two and no nesting. -/
theorem height_le_nine_mul_iff (limit k : Nat) :
    (∀ (tokens : List SpannedToken) (e : SpannedExpr), parseTokens limit tokens = .ok e →
      (∃ j, SuffixBounded j limit (kinds tokens) e.erase) ∧
      (SuffixBounded k limit (kinds tokens) e.erase → e.height < (8 + k) * limit)) ∧
    ((∀ (tokens : List SpannedToken) (e : SpannedExpr), parseTokens limit tokens = .ok e →
      SuffixBounded k limit (kinds tokens) e.erase → e.height ≤ 9 * limit) ↔ (k - 1) * limit ≤ 1) := by
  have bound {tokens : List SpannedToken} {e : SpannedExpr}
      (h : SuffixBounded k limit (kinds tokens) e.erase) : e.height < (8 + k) * limit := by
    have := height_lt_of_suffixBounded k limit _ _ h
    rwa [Expr.height_erase] at this
  refine ⟨fun tokens e h => ⟨?_, bound⟩, ⟨fun h => ?_, fun hk tokens e _ hs => ?_⟩⟩
  · have he := parseTokens_eq_ok_iff.1 ⟨e, h, rfl⟩
    exact ⟨_, suffixBounded_of_expression _ _ _ _ (Nat.le_refl _) he⟩
  · cases limit with
    | zero => omega
    | succ n =>
      -- the tower is among the trees that the assumption bounds
      obtain ⟨tokens, ht⟩ := exists_kinds (tower k n).1
      have hs := suffixBounded_tower k n
      have hE := expression_of_suffixBounded _ _ _ _ (Nat.le_refl _) hs
      rw [← ht] at hE hs
      obtain ⟨e, he, heq⟩ := parseTokens_eq_ok_iff.2 hE
      have low := h tokens e he (heq ▸ hs)
      have high := height_tower k n
      rw [← heq, Expr.height_erase] at high
      cases k with
      | zero => omega
      | succ k =>
        rw [show 8 + (k + 1) = 9 + k by omega, Nat.add_mul] at high
        rw [Nat.add_sub_cancel]
        omega
  · have := bound hs
    cases k with
    | zero => omega
    | succ k =>
      rw [show 8 + (k + 1) = 9 + k by omega, Nat.add_mul] at this
      rw [Nat.add_sub_cancel] at hk
      omega

/-- Nine method calls in a row, without arguments. -/
def methodCalls : List SpannedToken :=
  (.name "x", ⟨0, 1⟩) :: ((List.range 9).map fun i =>
    [(.symbol .dot, ⟨4 * i + 1, 4 * i + 2⟩), (.name "f", ⟨4 * i + 2, 4 * i + 3⟩),
      (.symbol .openParen, ⟨4 * i + 3, 4 * i + 4⟩), (.symbol .closeParen, ⟨4 * i + 4, 4 * i + 5⟩)]).flatten

/-- The nesting alone does not bound the height: method calls in a row nest nothing and have a tree of height ten. -/
theorem not_height_le_nine_mul : ¬ ∀ (limit : Nat) (tokens : List SpannedToken) (e : SpannedExpr),
    parseTokens limit tokens = .ok e → e.height ≤ 9 * limit := by
  intro h
  have ten : (parseTokens 1 methodCalls).toOption.map Expr.height = some 10 := by decide +kernel
  cases he : parseTokens 1 methodCalls with
  | error e =>
    rw [he] at ten
    cases ten
  | ok e =>
    have low := h 1 methodCalls e he
    rw [he] at ten
    have high : e.height = 10 := Option.some.inj ten
    omega

end ExprLang
