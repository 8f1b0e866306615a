import Mathlib.Data.List.Forall2
import ExprLang.Proofs.Syntax.Tree

/-!
# The grammar of expressions

Which runs of tokens spell which trees. A level of the grammar is a relation between tokens and trees that is built
from the relation of the next level, so the rules read

* `Expr ::= Or ['?' Or ':' Expr]`, `Or ::= And {'||' And}`, `And ::= Rel {'&&' Rel}`, `Rel ::= Add [RelOp Add]`,
* `Add ::= Mult {('+'|'-') Mult}`, `Mult ::= Unary {('*'|'/'|'%') Unary}`, `Unary ::= {'!'} Member | {'-'} Member`,
* `Member ::= Primary {'(' [ExprList] ')' | '.' IDENT '(' [ExprList] ')' | '[' Expr ']'}`,
* `Primary ::= LITERAL | IDENT | '(' Expr ')' | '[' [ExprList [',']] ']' | '{' [MapInits [',']] '}'`.

`Expression n` are the derivations in which expressions nest at most `n` deep; there is none for `n = 0`. Nothing here
mentions a parser.
-/

namespace ExprLang

namespace Grammar

/-- Which tokens spell what. -/
abbrev Phrase (β : Type) := List Token → β → Prop

variable {β : Type}

/-! ### Operators and their symbols -/

/-- The operators in front of an operand. -/
def signs : List (Symbol × UnaryOp) := [(.not, .not), (.minus, .neg)]

/-- The comparisons. -/
def relations : List (Symbol × BinaryOp) :=
  [(.eq, .eq), (.ne, .ne), (.lt, .lt), (.le, .le), (.gt, .gt), (.ge, .ge), (.member, .member)]

/-- The operators of a level. -/
def operators : Level → List (Symbol × BinaryOp)
  | .or => [(.or, .or)]
  | .and => [(.and, .and)]
  | .additive => [(.plus, .add), (.minus, .sub)]
  | .multiplicative => [(.star, .mul), (.slash, .div), (.percent, .mod)]

/-! ### Series -/

/-- Further items of a series, each behind a comma. -/
inductive More (item : Phrase β) : Phrase (List β)
  | nil : More item [] []
  | cons {T S x xs} : item T x → More item S xs → More item (.symbol .comma :: (T ++ S)) (x :: xs)

/-- What stands between brackets: nothing, or a series of items. Where `trailing` allows, one more comma may stand
behind the series. -/
inductive Enclosed (item : Phrase β) (trailing : Bool) : Phrase (List β)
  | nothing : Enclosed item trailing [] []
  | series {T S x xs} : item T x → More item S xs → Enclosed item trailing (T ++ S) (x :: xs)
  | comma {T S x xs} : trailing = true → item T x → More item S xs →
      Enclosed item trailing (T ++ (S ++ [.symbol .comma])) (x :: xs)

/-- Runs of tokens that are items, each behind a comma, are further items. -/
theorem more_of_forall₂ {item : Phrase β} {Ts : List (List Token)} {xs : List β} (h : List.Forall₂ item Ts xs) :
    More item (Ts.flatMap fun T => .symbol .comma :: T) xs := by
  induction h with
  | nil => exact .nil
  | cons hx _ ih => exact .cons hx ih

/-- A key and its value. -/
inductive Entry (nested : Phrase Tree) : Phrase (Tree × Tree)
  | mk {T S k v} : nested T k → nested S v → Entry nested (T ++ .symbol .colon :: S) (k, v)

/-! ### Operands -/

inductive Primary (nested : Phrase Tree) : Phrase Tree
  | literal (l) : Primary nested [.literal l] (.literal () l)
  | name (s) : Primary nested [.name s] (.name () s)
  | group {T e} : nested T e → Primary nested (.symbol .openParen :: (T ++ [.symbol .closeParen])) e
  | list {T es} : Enclosed nested true T es →
      Primary nested (.symbol .openBracket :: (T ++ [.symbol .closeBracket])) (.list () es)
  | map {T es} : Enclosed (Entry nested) true T es →
      Primary nested (.symbol .openBrace :: (T ++ [.symbol .closeBrace])) (.map () es)

/-- An operand with the given number of calls, method calls and indexes behind it. -/
inductive Suffixed (nested : Phrase Tree) : Nat → Phrase Tree
  | primary {T e} : Primary nested T e → Suffixed nested 0 T e
  | call {k T A e args} : Suffixed nested k T e → Enclosed nested false A args →
      Suffixed nested (k + 1) (T ++ .symbol .openParen :: (A ++ [.symbol .closeParen])) (.call () e args)
  | method {k T A e f args} : Suffixed nested k T e → Enclosed nested false A args →
      Suffixed nested (k + 1)
        (T ++ .symbol .dot :: .name f :: .symbol .openParen :: (A ++ [.symbol .closeParen]))
        (.call () (.name () f) (e :: args))
  | index {k T S e i} : Suffixed nested k T e → nested S i →
      Suffixed nested (k + 1) (T ++ .symbol .openBracket :: (S ++ [.symbol .closeBracket])) (.index () e i)

/-- An operand with what is behind it. -/
def Member (nested : Phrase Tree) : Phrase Tree := fun T e => ∃ k, Suffixed nested k T e

/-- An operand behind a run of one operator, which may be empty and then leaves no node. -/
inductive Unary (member : Phrase Tree) : Phrase Tree
  | bare {T e} : member T e → Unary member T e
  | signed {y op T e} (k) : (y, op) ∈ signs → member T e →
      Unary member (List.replicate (k + 1) (.symbol y) ++ T) (.unary () op (k + 1) e)

/-! ### Operators between operands -/

/-- Operators, each with an operand behind it. -/
inductive Following (operand : Phrase Tree) (ops : List (Symbol × BinaryOp)) : Phrase (List (BinaryOp × Tree))
  | nil : Following operand ops [] []
  | cons {y op T S e es} : (y, op) ∈ ops → operand T e → Following operand ops S es →
      Following operand ops (.symbol y :: (T ++ S)) ((op, e) :: es)

/-- A run of operands of a level: one flat chain, or a lone operand as it is. -/
inductive Run (operand : Phrase Tree) (level : Level) : Phrase Tree
  | lone {T e} : operand T e → Run operand level T e
  | chain {T S first op second rest} : operand T first →
      Following operand (operators level) S ((op, second) :: rest) →
      Run operand level (T ++ S) (.chain () level ⟨first, op, second, rest⟩)

/-- At most one comparison. -/
inductive Relation (operand : Phrase Tree) : Phrase Tree
  | lone {T e} : operand T e → Relation operand T e
  | compare {y op T S l r} : operand T l → (y, op) ∈ relations → operand S r →
      Relation operand (T ++ .symbol y :: S) (.relation () op l r)

/-! ### Expressions -/

/-- An expression without a condition in front. -/
def Disjunction (member : Phrase Tree) : Phrase Tree :=
  Run (Run (Relation (Run (Run (Unary member) .multiplicative) .additive)) .and) .or

/-- An expression, perhaps with a condition. -/
inductive Conditional (member nested : Phrase Tree) : Phrase Tree
  | plain {T e} : Disjunction member T e → Conditional member nested T e
  | ternary {C Y N c y n} : Disjunction member C c → Disjunction member Y y → nested N n →
      Conditional member nested (C ++ .symbol .question :: (Y ++ .symbol .colon :: N)) (.ternary () c y n)

/-- The expressions that nest at most `n` deep. -/
def Expression : Nat → Phrase Tree
  | 0 => fun _ _ => False
  | n + 1 => Conditional (Member (Expression n)) (Expression n)

/-- An operand with what is behind it is an expression. -/
theorem expression_of_suffixed {n k : Nat} {T : List Token} {e : Tree} (h : Suffixed (Expression n) k T e) :
    Expression (n + 1) T e :=
  .plain (.lone (.lone (.lone (.lone (.lone (.bare ⟨k, h⟩))))))

/-! ### Larger grammars -/

/-- Every phrase of `P` of at most `l` tokens is a phrase of `Q`. -/
def Within (l : Nat) (P Q : Phrase β) : Prop := ∀ T x, T.length ≤ l → P T x → Q T x

section Within

variable {l : Nat} {P Q : Phrase β} {nested nested' member member' operand operand' : Phrase Tree}

private theorem more_within (h : Within l P Q) : Within l (More P) (More Q) := by
  intro T xs hl hT
  induction hT with
  | nil => exact .nil
  | cons hx _ ih =>
    simp only [List.length_cons, List.length_append] at hl
    exact .cons (h _ _ (by omega) hx) (ih (by omega))

private theorem enclosed_within (h : Within l P Q) (trailing : Bool) :
    Within l (Enclosed P trailing) (Enclosed Q trailing) := by
  intro T xs hl hT
  cases hT with
  | nothing => exact .nothing
  | series hx hm =>
    rw [List.length_append] at hl
    exact .series (h _ _ (by omega) hx) (more_within h _ _ (by omega) hm)
  | comma ht hx hm =>
    simp only [List.length_append] at hl
    exact .comma ht (h _ _ (by omega) hx) (more_within h _ _ (by omega) hm)

private theorem entry_within (h : Within l nested nested') : Within l (Entry nested) (Entry nested') := by
  intro T x hl hT
  cases hT with
  | mk hk hv =>
    simp only [List.length_append, List.length_cons] at hl
    exact .mk (h _ _ (by omega) hk) (h _ _ (by omega) hv)

private theorem primary_within (h : Within l nested nested') : Within l (Primary nested) (Primary nested') := by
  intro T e hl hT
  cases hT with
  | literal v => exact .literal v
  | name s => exact .name s
  | group he =>
    simp only [List.length_append, List.length_cons] at hl
    exact .group (h _ _ (by omega) he)
  | list he =>
    simp only [List.length_append, List.length_cons] at hl
    exact .list (enclosed_within h _ _ _ (by omega) he)
  | map he =>
    simp only [List.length_append, List.length_cons] at hl
    exact .map (enclosed_within (entry_within h) _ _ _ (by omega) he)

theorem suffixed_within (h : Within l nested nested') (k : Nat) :
    Within l (Suffixed nested k) (Suffixed nested' k) := by
  intro T e hl hT
  induction hT with
  | primary he => exact .primary (primary_within h _ _ hl he)
  | call _ ha ih =>
    simp only [List.length_append, List.length_cons] at hl
    exact .call (ih (by omega)) (enclosed_within h _ _ _ (by omega) ha)
  | method _ ha ih =>
    simp only [List.length_append, List.length_cons] at hl
    exact .method (ih (by omega)) (enclosed_within h _ _ _ (by omega) ha)
  | index _ hi ih =>
    simp only [List.length_append, List.length_cons] at hl
    exact .index (ih (by omega)) (h _ _ (by omega) hi)

private theorem unary_within (h : Within l member member') : Within l (Unary member) (Unary member') := by
  intro T e hl hT
  cases hT with
  | bare hm => exact .bare (h _ _ hl hm)
  | signed k hy hm =>
    rw [List.length_append] at hl
    exact .signed k hy (h _ _ (by omega) hm)

private theorem following_within (h : Within l operand operand') (ops : List (Symbol × BinaryOp)) :
    Within l (Following operand ops) (Following operand' ops) := by
  intro T es hl hT
  induction hT with
  | nil => exact .nil
  | cons hy ho _ ih =>
    simp only [List.length_cons, List.length_append] at hl
    exact .cons hy (h _ _ (by omega) ho) (ih (by omega))

private theorem run_within (h : Within l operand operand') (level : Level) :
    Within l (Run operand level) (Run operand' level) := by
  intro T e hl hT
  cases hT with
  | lone ho => exact .lone (h _ _ hl ho)
  | chain ho hf =>
    rw [List.length_append] at hl
    exact .chain (h _ _ (by omega) ho) (following_within h _ _ _ (by omega) hf)

private theorem relation_within (h : Within l operand operand') :
    Within l (Relation operand) (Relation operand') := by
  intro T e hl hT
  cases hT with
  | lone ho => exact .lone (h _ _ hl ho)
  | compare hL hy hR =>
    simp only [List.length_append, List.length_cons] at hl
    exact .compare (h _ _ (by omega) hL) hy (h _ _ (by omega) hR)

private theorem disjunction_within (h : Within l member member') :
    Within l (Disjunction member) (Disjunction member') :=
  run_within (run_within (relation_within (run_within (run_within (unary_within h) _) _)) _) _

theorem conditional_within (hm : Within l member member') (hn : Within l nested nested') :
    Within l (Conditional member nested) (Conditional member' nested') := by
  have hd := disjunction_within hm
  intro T e hl hT
  cases hT with
  | plain hD => exact .plain (hd _ _ hl hD)
  | ternary hC hY hN =>
    simp only [List.length_append, List.length_cons] at hl
    exact .ternary (hd _ _ (by omega) hC) (hd _ _ (by omega) hY) (hn _ _ (by omega) hN)

/-- What nests at most `m` deep nests at most `n` deep for every larger `n`. -/
theorem expression_within {m n : Nat} (h : m ≤ n) : Within l (Expression m) (Expression n) := by
  induction m generalizing n with
  | zero => exact fun _ _ _ hT => hT.elim
  | succ m ih =>
    obtain ⟨n, rfl⟩ : ∃ n', n = n' + 1 := ⟨n - 1, by omega⟩
    have hmn : Within l (Expression m) (Expression n) := ih (by omega)
    exact conditional_within (fun T e hl ⟨k, hk⟩ => ⟨k, suffixed_within hmn k T e hl hk⟩) hmn

end Within

/-! ### How phrases begin -/

/-- Whether an operand can begin with the token. -/
def leads : Token → Bool
  | .literal _ | .name _ | .symbol .openParen | .symbol .openBracket | .symbol .openBrace => true
  | _ => false

/-- Whether an expression can begin with the token. -/
def opens : Token → Bool
  | .symbol .not | .symbol .minus => true
  | t => leads t

theorem opens_of_leads {t : Token} (h : leads t = true) : opens t = true := by
  unfold opens
  split
  · rfl
  · rfl
  · exact h

/-- Each phrase begins with a token of the given sort. -/
def Begins (sort : Token → Bool) (P : Phrase β) : Prop := ∀ T x, P T x → ∃ t S, T = t :: S ∧ sort t = true

section Begins

variable {sort : Token → Bool} {P operand member nested : Phrase Tree}

/-- What begins a phrase also begins the longer phrases that it stands in front of. -/
private theorem Begins.append (h : Begins sort P) {T : List Token} {e : Tree} (hT : P T e) (S : List Token) :
    ∃ t U, T ++ S = t :: U ∧ sort t = true := by
  obtain ⟨t, U, rfl, ht⟩ := h T e hT
  exact ⟨t, U ++ S, rfl, ht⟩

theorem begins_suffixed (k : Nat) : Begins leads (Suffixed nested k) := by
  intro T e h
  induction h with
  | primary h => cases h <;> exact ⟨_, _, rfl, rfl⟩
  | call _ _ ih | method _ _ ih | index _ _ ih =>
    obtain ⟨t, U, rfl, ht⟩ := ih
    exact ⟨t, _, rfl, ht⟩

theorem begins_member : Begins leads (Member nested) := fun T e ⟨k, h⟩ => begins_suffixed k T e h

theorem begins_unary (h : Begins leads member) : Begins opens (Unary member) := by
  intro T e hT
  cases hT with
  | bare hm =>
    obtain ⟨t, S, rfl, ht⟩ := h T e hm
    exact ⟨t, S, rfl, opens_of_leads ht⟩
  | signed k hy _ =>
    have all : ∀ p ∈ signs, opens (.symbol p.1) = true := by decide
    exact ⟨_, _, rfl, all _ hy⟩

theorem begins_run {level : Level} (h : Begins sort operand) : Begins sort (Run operand level) := by
  intro T e hT
  cases hT with
  | lone ho => exact h T e ho
  | chain ho _ => exact h.append ho _

theorem begins_relation (h : Begins sort operand) : Begins sort (Relation operand) := by
  intro T e hT
  cases hT with
  | lone ho => exact h T e ho
  | compare ho _ _ => exact h.append ho _

theorem begins_disjunction (h : Begins leads member) : Begins opens (Disjunction member) :=
  begins_run (begins_run (begins_relation (begins_run (begins_run (begins_unary h)))))

theorem begins_conditional (h : Begins leads member) : Begins opens (Conditional member nested) := by
  intro T e hT
  cases hT with
  | plain hd => exact begins_disjunction h T e hd
  | ternary hd _ _ => exact (begins_disjunction h).append hd _

theorem begins_expression (n : Nat) : Begins opens (Expression n) := by
  cases n with
  | zero => exact fun _ _ h => h.elim
  | succ n => exact begins_conditional begins_member

theorem begins_entry (h : Begins sort nested) : Begins sort (Entry nested) := by
  rintro _ _ ⟨hk, _⟩
  exact h.append hk _

end Begins

/-! ### How operands end -/

theorem endsOperand_of_suffixed {nested : Phrase Tree} {k : Nat} {T : List Token} {e : Tree}
    (h : Suffixed nested k T e) : ∃ t ∈ T.getLast?, t.endsOperand = true := by
  cases h with
  | primary h =>
    cases h with
    | literal | name => exact ⟨_, rfl, rfl⟩
    | group => exact ⟨.symbol .closeParen, by simp [List.getLast?_cons], rfl⟩
    | list => exact ⟨.symbol .closeBracket, by simp [List.getLast?_cons], rfl⟩
    | map => exact ⟨.symbol .closeBrace, by simp [List.getLast?_cons], rfl⟩
  | call | method => exact ⟨.symbol .closeParen, by simp [List.getLast?_cons], rfl⟩
  | index => exact ⟨.symbol .closeBracket, by simp [List.getLast?_cons], rfl⟩

/-- The tokens behind which a minus sign is a subtraction are the reserved words, which stand in no expression, and the
last tokens of operands. -/
theorem endsOperand_iff {t : Token} : t.endsOperand = true ↔
    (∃ w, t = .reserved w) ∨ ∃ n T e, Member (Expression n) (T ++ [t]) e := by
  constructor
  · intro h
    cases t with
    | literal l => exact .inr ⟨0, [], _, 0, .primary (.literal l)⟩
    | name s => exact .inr ⟨0, [], _, 0, .primary (.name s)⟩
    | reserved w => exact .inl ⟨w, rfl⟩
    | symbol y =>
      cases y with
      | closeParen =>
        have hnull : Expression 1 [.literal .null] _ := expression_of_suffixed (.primary (.literal .null))
        exact .inr ⟨1, _ :: _, _, 0, .primary (.group hnull)⟩
      | closeBracket => exact .inr ⟨0, [_], _, 0, .primary (.list .nothing)⟩
      | closeBrace => exact .inr ⟨0, [_], _, 0, .primary (.map .nothing)⟩
      | _ => cases h
  · rintro (⟨w, rfl⟩ | ⟨n, T, e, k, h⟩)
    · rfl
    · obtain ⟨u, hlast, hu⟩ := endsOperand_of_suffixed h
      rw [List.getLast?_concat] at hlast
      cases hlast
      exact hu

/-! ### How phrases go on -/

end Grammar

/-- The outermost level at which the symbol goes on with an operand that stands in front of it: behind calls and
indexes come the levels of operators, from the strongest to the weakest, and then what ends an expression. -/
def Symbol.reach : Symbol → Nat
  | .openParen | .openBracket | .dot => 1
  | .star | .slash | .percent => 2
  | .plus | .minus => 3
  | .eq | .ne | .lt | .le | .gt | .ge | .member => 4
  | .and => 5
  | .or => 6
  | .question => 7
  | .not | .colon | .comma | .openBrace | .closeParen | .closeBracket | .closeBrace => 8

/-- The place of a level of operators among all levels. -/
def Level.rank : Level → Nat
  | .multiplicative => 2
  | .additive => 3
  | .and => 5
  | .or => 6

namespace Grammar

/-- Whether the tokens do not go on with a phrase of the levels up to `k`. -/
def Settled (k : Nat) : List Token → Prop
  | .symbol y :: _ => k < y.reach
  | _ => True

@[simp] theorem settled_nil {k : Nat} : Settled k [] := trivial

@[simp] theorem settled_symbol {k : Nat} {y : Symbol} {R : List Token} :
    Settled k (.symbol y :: R) ↔ k < y.reach := Iff.rfl

theorem settled_zero (R : List Token) : Settled 0 R := by
  unfold Settled
  split
  · rename_i y _
    cases y <;> decide
  · trivial

theorem Settled.of_le {k l : Nat} (h : k ≤ l) {R : List Token} (hR : Settled l R) : Settled k R := by
  unfold Settled at *
  split
  · exact Nat.lt_of_le_of_lt h hR
  · trivial

theorem reach_of_mem_operators {level : Level} {y : Symbol} {op : BinaryOp} (h : (y, op) ∈ operators level) :
    y.reach = level.rank := by
  have all : ∀ p ∈ operators level, p.1.reach = level.rank := by cases level <;> decide
  exact all _ h

theorem reach_of_mem_relations {y : Symbol} {op : BinaryOp} (h : (y, op) ∈ relations) : y.reach = 4 := by
  have all : ∀ p ∈ relations, p.1.reach = 4 := by decide
  exact all _ h

end Grammar

end ExprLang
