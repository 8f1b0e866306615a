import ExprLang.Proofs.Syntax.Reading

/-!
# The nodes of trees that were read

Which operators the nodes of a tree hold. Reading puts only the operators of its level into a chain, only comparisons
into a comparison, and at least one sign in front of an operand (`regular_of_parse`). The type of trees promises
less: it keeps the operands and operators of a chain in step, but it has room for every operator in every node.
-/

namespace ExprLang

/-- The operators that stand in the chains of a level. -/
def Level.operators : Level → List BinaryOp
  | or => [.or]
  | and => [.and]
  | additive => [.add, .sub]
  | multiplicative => [.mul, .div, .mod]

/-- The operators that compare two values. -/
def BinaryOp.comparisons : List BinaryOp := [eq, ne, lt, le, gt, ge, member]

namespace Expr

variable {α β : Type}

/-- Whether the root holds what reading puts there: a run of signs is not empty, a chain has at least two operands, one
operator fewer, and only operators of its level, and a comparison compares. -/
def Fits : Expr α → Prop
  | unary _ _ count _ => 1 ≤ count
  | chain _ level c =>
    (∀ op ∈ c.operators, op ∈ level.operators) ∧ 2 ≤ c.operands.length ∧ c.operators.length + 1 = c.operands.length
  | relation _ op _ _ => op ∈ BinaryOp.comparisons
  | _ => True

mutual

/-- All nodes of a tree, each as the tree below it. -/
@[simp] def nodes : Expr α → List (Expr α)
  | literal a l => [literal a l]
  | name a s => [name a s]
  | list a items => list a items :: nodesItems items
  | map a entries => map a entries :: nodesEntries entries
  | unary a op count e => unary a op count e :: e.nodes
  | chain a level ⟨first, op, second, rest⟩ =>
    chain a level ⟨first, op, second, rest⟩ :: (first.nodes ++ (second.nodes ++ nodesFollowing rest))
  | relation a op l r => relation a op l r :: (l.nodes ++ r.nodes)
  | ternary a c y n => ternary a c y n :: (c.nodes ++ (y.nodes ++ n.nodes))
  | index a b i => index a b i :: (b.nodes ++ i.nodes)
  | call a f args => call a f args :: (f.nodes ++ nodesItems args)

@[simp] def nodesItems : List (Expr α) → List (Expr α)
  | [] => []
  | e :: es => e.nodes ++ nodesItems es

@[simp] def nodesEntries : List (Expr α × Expr α) → List (Expr α)
  | [] => []
  | (k, v) :: es => k.nodes ++ (v.nodes ++ nodesEntries es)

@[simp] def nodesFollowing : List (BinaryOp × Expr α) → List (Expr α)
  | [] => []
  | (_, e) :: es => e.nodes ++ nodesFollowing es

end

/-- Whether all nodes of a tree hold what reading puts there. -/
def Regular (e : Expr α) : Prop := ∀ n ∈ e.nodes, n.Fits

/-! ### Regular trees node by node -/

section Regular

variable {a : α} {e l r : Expr α} {es : List (Expr α)}

theorem forall_nodesItems {P : Expr α → Prop} :
    (∀ n ∈ nodesItems es, P n) ↔ ∀ e ∈ es, ∀ n ∈ e.nodes, P n := by
  induction es with
  | nil => simp [nodesItems]
  | cons e es ih => rw [nodesItems, List.forall_mem_append, List.forall_mem_cons, ih]

theorem forall_nodesEntries {P : Expr α → Prop} {es : List (Expr α × Expr α)} :
    (∀ n ∈ nodesEntries es, P n) ↔ ∀ p ∈ es, (∀ n ∈ p.1.nodes, P n) ∧ ∀ n ∈ p.2.nodes, P n := by
  induction es with
  | nil => simp [nodesEntries]
  | cons p es ih =>
    rw [nodesEntries, List.forall_mem_append, List.forall_mem_append, List.forall_mem_cons, ih, and_assoc]

theorem forall_nodesFollowing {P : Expr α → Prop} {es : List (BinaryOp × Expr α)} :
    (∀ n ∈ nodesFollowing es, P n) ↔ ∀ p ∈ es, ∀ n ∈ p.2.nodes, P n := by
  induction es with
  | nil => simp [nodesFollowing]
  | cons p es ih => rw [nodesFollowing, List.forall_mem_append, List.forall_mem_cons, ih]

@[simp] theorem regular_literal {v : Literal} : (literal a v).Regular := by
  simp [Regular, nodes, Fits]

@[simp] theorem regular_name {s : String} : (name a s).Regular := by
  simp [Regular, nodes, Fits]

@[simp] theorem regular_list : (list a es).Regular ↔ ∀ e ∈ es, e.Regular := by
  simp [Regular, nodes, Fits, forall_nodesItems]

@[simp] theorem regular_map {es : List (Expr α × Expr α)} :
    (map a es).Regular ↔ ∀ p ∈ es, p.1.Regular ∧ p.2.Regular := by
  rw [Regular, nodes, List.forall_mem_cons, forall_nodesEntries]
  exact and_iff_right trivial

@[simp] theorem regular_unary {op : UnaryOp} {k : Nat} : (unary a op k e).Regular ↔ 1 ≤ k ∧ e.Regular := by
  simp [Regular, nodes, Fits]

@[simp] theorem regular_chain {level : Level} {op : BinaryOp} {rest : List (BinaryOp × Expr α)} :
    (chain a level ⟨l, op, r, rest⟩).Regular ↔
      op ∈ level.operators ∧ l.Regular ∧ r.Regular ∧ ∀ p ∈ rest, p.1 ∈ level.operators ∧ p.2.Regular := by
  -- the type of chains promises the numbers of operands and operators
  have hfits : (chain a level ⟨l, op, r, rest⟩).Fits ↔
      op ∈ level.operators ∧ ∀ p ∈ rest, p.1 ∈ level.operators := by
    simp [Fits, Chain.operators, Chain.operands, Chain.following]
  rw [Regular, nodes, List.forall_mem_cons, List.forall_mem_append, List.forall_mem_append, forall_nodesFollowing,
    hfits]
  simp only [Regular, forall_and]
  grind

@[simp] theorem regular_relation {op : BinaryOp} :
    (relation a op l r).Regular ↔ op ∈ BinaryOp.comparisons ∧ l.Regular ∧ r.Regular := by
  rw [Regular, nodes, List.forall_mem_cons, List.forall_mem_append]
  rfl

@[simp] theorem regular_ternary : (ternary a e l r).Regular ↔ e.Regular ∧ l.Regular ∧ r.Regular := by
  rw [Regular, nodes, List.forall_mem_cons, List.forall_mem_append, List.forall_mem_append]
  exact and_iff_right trivial

@[simp] theorem regular_index : (index a l r).Regular ↔ l.Regular ∧ r.Regular := by
  rw [Regular, nodes, List.forall_mem_cons, List.forall_mem_append]
  exact and_iff_right trivial

@[simp] theorem regular_call : (call a e es).Regular ↔ e.Regular ∧ ∀ x ∈ es, x.Regular := by
  rw [Regular, nodes, List.forall_mem_cons, List.forall_mem_append, forall_nodesItems]
  exact and_iff_right trivial

end Regular

mutual

theorem regular_mapNote (f : α → β) : ∀ e : Expr α, (e.mapNote f).Regular ↔ e.Regular
  | literal _ _ | name _ _ => by simp [mapNote]
  | list _ items => by rw [mapNote, regular_list, regular_list, regular_mapItems f items]
  | map _ entries => by rw [mapNote, regular_map, regular_map, regular_mapEntries f entries]
  | unary _ _ _ e => by rw [mapNote, regular_unary, regular_unary, regular_mapNote f e]
  | chain _ level ⟨first, _, second, rest⟩ => by
    rw [mapNote, regular_chain, regular_chain, regular_mapNote f first, regular_mapNote f second,
      regular_mapFollowing f rest]
  | relation _ _ l r => by rw [mapNote, regular_relation, regular_relation, regular_mapNote f l, regular_mapNote f r]
  | ternary _ c y n => by
    rw [mapNote, regular_ternary, regular_ternary, regular_mapNote f c, regular_mapNote f y, regular_mapNote f n]
  | index _ b i => by rw [mapNote, regular_index, regular_index, regular_mapNote f b, regular_mapNote f i]
  | call _ g args => by rw [mapNote, regular_call, regular_call, regular_mapNote f g, regular_mapItems f args]

private theorem regular_mapItems (f : α → β) :
    ∀ es : List (Expr α), (∀ e ∈ mapItems f es, e.Regular) ↔ ∀ e ∈ es, e.Regular
  | [] => by simp [mapItems]
  | e :: es => by
    rw [mapItems, List.forall_mem_cons, List.forall_mem_cons, regular_mapNote f e, regular_mapItems f es]

private theorem regular_mapEntries (f : α → β) : ∀ es : List (Expr α × Expr α),
    (∀ p ∈ mapEntries f es, p.1.Regular ∧ p.2.Regular) ↔ ∀ p ∈ es, p.1.Regular ∧ p.2.Regular
  | [] => by simp [mapEntries]
  | (k, v) :: es => by
    rw [mapEntries, List.forall_mem_cons, List.forall_mem_cons, regular_mapNote f k, regular_mapNote f v,
      regular_mapEntries f es]

private theorem regular_mapFollowing (f : α → β) {ops : List BinaryOp} : ∀ es : List (BinaryOp × Expr α),
    (∀ p ∈ mapFollowing f es, p.1 ∈ ops ∧ p.2.Regular) ↔ ∀ p ∈ es, p.1 ∈ ops ∧ p.2.Regular
  | [] => by simp [mapFollowing]
  | (_, e) :: es => by
    rw [mapFollowing, List.forall_mem_cons, List.forall_mem_cons, regular_mapNote f e, regular_mapFollowing f es]

end

theorem regular_erase {e : Expr α} : e.erase.Regular ↔ e.Regular := regular_mapNote _ e

end Expr

namespace Grammar

variable {nested member operand : Phrase Tree}

theorem mem_operators {level : Level} {y : Symbol} {op : BinaryOp} (h : (y, op) ∈ operators level) :
    op ∈ level.operators := by
  have all : ∀ p ∈ operators level, p.2 ∈ level.operators := by cases level <;> decide
  exact all _ h

theorem mem_comparisons {y : Symbol} {op : BinaryOp} (h : (y, op) ∈ relations) : op ∈ BinaryOp.comparisons := by
  have all : ∀ p ∈ relations, p.2 ∈ BinaryOp.comparisons := by decide
  exact all _ h

/-! ### Phrases with regular trees -/

/-- Each phrase has a regular tree. -/
def Tidy (P : Phrase Tree) : Prop := ∀ T e, P T e → e.Regular

/-- What is true of the items is true of all items of a series. -/
theorem forall_mem_of_enclosed {β : Type} {P : Phrase β} {Q : β → Prop} (h : ∀ T x, P T x → Q x) {trailing : Bool}
    {T : List Token} {xs : List β} (hT : Enclosed P trailing T xs) : ∀ x ∈ xs, Q x := by
  have more {S xs} (hS : More P S xs) : ∀ x ∈ xs, Q x := by
    induction hS with
    | nil => exact List.forall_mem_nil _
    | cons hx _ ih => exact List.forall_mem_cons.mpr ⟨h _ _ hx, ih⟩
  cases hT with
  | nothing => exact List.forall_mem_nil _
  | series hx hm | comma _ hx hm => exact List.forall_mem_cons.mpr ⟨h _ _ hx, more hm⟩

theorem tidy_primary (h : Tidy nested) : Tidy (Primary nested) := by
  intro T e hT
  cases hT with
  | literal => exact Expr.regular_literal
  | name => exact Expr.regular_name
  | group he => exact h _ _ he
  | list he => exact Expr.regular_list.mpr (forall_mem_of_enclosed h he)
  | map he =>
    have entry : ∀ S p, Entry nested S p → p.1.Regular ∧ p.2.Regular := by
      rintro _ _ ⟨hk, hv⟩
      exact ⟨h _ _ hk, h _ _ hv⟩
    exact Expr.regular_map.mpr (forall_mem_of_enclosed entry he)

theorem tidy_suffixed (h : Tidy nested) (k : Nat) : Tidy (Suffixed nested k) := by
  intro T e hT
  induction hT with
  | primary hp => exact tidy_primary h _ _ hp
  | call _ ha ih => exact Expr.regular_call.mpr ⟨ih, forall_mem_of_enclosed h ha⟩
  | method _ ha ih =>
    exact Expr.regular_call.mpr ⟨Expr.regular_name, List.forall_mem_cons.mpr ⟨ih, forall_mem_of_enclosed h ha⟩⟩
  | index _ hi ih => exact Expr.regular_index.mpr ⟨ih, h _ _ hi⟩

theorem tidy_unary (h : Tidy member) : Tidy (Unary member) := by
  intro T e hT
  cases hT with
  | bare hm => exact h _ _ hm
  | signed k _ hm => exact Expr.regular_unary.mpr ⟨Nat.le_add_left 1 k, h _ _ hm⟩

theorem tidy_run (h : Tidy operand) (level : Level) : Tidy (Run operand level) := by
  have following {S es} (hS : Following operand (operators level) S es) :
      ∀ p ∈ es, p.1 ∈ level.operators ∧ p.2.Regular := by
    induction hS with
    | nil => exact List.forall_mem_nil _
    | cons hy ho _ ih => exact List.forall_mem_cons.mpr ⟨⟨mem_operators hy, h _ _ ho⟩, ih⟩
  intro T e hT
  cases hT with
  | lone ho => exact h _ _ ho
  | chain ho hf =>
    obtain ⟨⟨hop, hsecond⟩, hrest⟩ := List.forall_mem_cons.mp (following hf)
    exact Expr.regular_chain.mpr ⟨hop, h _ _ ho, hsecond, hrest⟩

theorem tidy_relation (h : Tidy operand) : Tidy (Relation operand) := by
  intro T e hT
  cases hT with
  | lone ho => exact h _ _ ho
  | compare hl hy hr => exact Expr.regular_relation.mpr ⟨mem_comparisons hy, h _ _ hl, h _ _ hr⟩

theorem tidy_disjunction (h : Tidy member) : Tidy (Disjunction member) :=
  tidy_run (tidy_run (tidy_relation (tidy_run (tidy_run (tidy_unary h) _) _)) _) _

/-- The trees of expressions are regular. -/
theorem tidy_expression (n : Nat) : Tidy (Expression n) := by
  induction n with
  | zero => exact fun _ _ hT => hT.elim
  | succ n ih =>
    have hd : Tidy (Disjunction (Member (Expression n))) :=
      tidy_disjunction fun T e ⟨k, hk⟩ => tidy_suffixed ih k T e hk
    intro T e hT
    cases hT with
    | plain hD => exact hd _ _ hD
    | ternary hC hY hN => exact Expr.regular_ternary.mpr ⟨hd _ _ hC, hd _ _ hY, ih _ _ hN⟩

end Grammar

/-- Trees that were read are regular. -/
theorem regular_of_parseTokens {limit : Nat} {tokens : List SpannedToken} {e : SpannedExpr}
    (h : parseTokens limit tokens = .ok e) : e.Regular :=
  Expr.regular_erase.mp (Grammar.tidy_expression _ _ _ (parseTokens_eq_ok_iff.1 ⟨e, h, rfl⟩))

theorem regular_of_parse {limit : Nat} {source : String} {e : SpannedExpr} (h : parse limit source = .ok e) :
    e.Regular := by
  unfold parse at h
  split at h
  · exact regular_of_parseTokens h
  · cases h

end ExprLang
