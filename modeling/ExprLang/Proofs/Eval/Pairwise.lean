import Mathlib.Data.List.Forall2
import ExprLang.Eval.Evaluate

/-!
# Chains of arithmetic two operands at a time

A chain chooses one kind of number for all of its operands. Computed as nested chains of two operands, from the left,
it chooses a kind at each operator. The outcome is the same when the first two operands already have the kind of the
whole chain, since the kind then stays as it is (`foldlM_combine`). Values that are no numbers are joined, or refused
with errors of one kind (`mapError_foldlM_combine`).
-/

namespace ExprLang

namespace Arithmetic

/-! ### The kind of a chain -/

/-- The kind of the numbers of a promotion. -/
def Promotion.kind : Promotion → Kind
  | .int => .int
  | .uint => .uint
  | .float => .float

/-- Whether values of a kind may follow numbers of the promotion without changing it. -/
def Promotion.admits : Promotion → Kind → Bool
  | .int, k => k = .int || k = .uint
  | .uint, k => k = .uint
  | .float, k => k.isNumeric

variable {operators : List BinaryOp} {operands : List Value} {following : List (BinaryOp × Value)} {k : Promotion}
  {u v w : Value}

theorem Promotion.isNumeric_kind (k : Promotion) : k.kind.isNumeric = true := by
  cases k <;> rfl

theorem find?_notNumeric_eq_none_iff :
    (operands.find? fun v => !v.kind.isNumeric) = none ↔ ∀ v ∈ operands, v.kind.isNumeric = true := by
  simp

/-- A chain of numbers has a kind, which all of its operands agree with. -/
theorem admits_of_promotion (h : promotion operators operands = .ok k) (hv : v ∈ operands) :
    k.admits v.kind = true := by
  unfold promotion at h
  split at h
  · cases h
  · rename_i hnumbers
    have hnumeric := find?_notNumeric_eq_none_iff.mp hnumbers v hv
    split at h
    · cases h
      exact hnumeric
    · rename_i hfloat
      have hne : v.kind ≠ .float := by
        intro heq
        exact hfloat (List.any_eq_true.mpr ⟨v, hv, by simpa using heq⟩)
      split at h
      · rename_i huint
        cases h
        exact List.all_eq_true.mp huint v hv
      · cases h
        cases hkind : v.kind <;> simp_all [Promotion.admits, Kind.isNumeric]

/-- The operators only count where the operands have no common kind. -/
theorem promotion_operators {operators' : List BinaryOp} (h : promotion operators operands = .ok k) :
    promotion operators' operands = .ok k := by
  unfold promotion at h ⊢
  split at h
  · cases h
  · exact h

theorem promotion_of_numeric (operators : List BinaryOp) (h : ∀ v ∈ operands, v.kind.isNumeric = true) :
    ∃ k, promotion operators operands = .ok k := by
  rw [promotion, find?_notNumeric_eq_none_iff.mpr h]
  dsimp only
  split
  · exact ⟨.float, rfl⟩
  · split
    · exact ⟨.uint, rfl⟩
    · exact ⟨.int, rfl⟩

/-- A number of the promotion keeps it together with an operand that it admits. -/
theorem promotion_pair (hu : u.kind = k.kind) (hw : k.admits w.kind = true) :
    promotion operators [u, w] = .ok k := by
  have hnumeric : w.kind.isNumeric = true := by
    cases k <;> cases hkind : w.kind <;> simp_all [Promotion.admits, Kind.isNumeric]
  have hfind : ([u, w].find? fun v => !v.kind.isNumeric) = none := by
    simp [hu, hnumeric, Promotion.isNumeric_kind]
  rw [promotion, hfind]
  cases k <;> cases hkind : w.kind <;> simp_all [Promotion.admits, Promotion.kind, Kind.isNumeric]

/-! ### Folds -/

/-- The value of a chain of numbers that are brought to the kind of the promotion. -/
def evaluateAs (k : Promotion) (first : Value) (following : List (BinaryOp × Value)) : Outcome Value :=
  match k with
  | .float => (fold (fun v => .ok (asFloat v)) floatStep (asFloat first) following).map .float
  | .uint => ((asUInt first).bind fun a => fold asUInt uintStep a following).map .uint
  | .int => ((asInt first).bind fun a => fold asInt intStep a following).map .int

theorem evaluate_of_promotion (h : promotion operators (v :: following.map Prod.snd) = .ok k) :
    evaluate v following = evaluateAs k v following := by
  rw [evaluate, promotion_operators h]
  cases k <;> rfl

variable {N : Type} {promote : Value → Outcome N} {step : BinaryOp → N → N → Outcome N}

theorem fold_cons (acc : N) (p : BinaryOp × Value) (rest : List (BinaryOp × Value)) :
    fold promote step acc (p :: rest) = (fold promote step acc [p]).bind fun acc => fold promote step acc rest := by
  simp only [fold]
  cases promote p.2 with
  | error e => rfl
  | ok b =>
    simp only [Except.bind]
    cases step p.1 acc b <;> rfl

variable {p : BinaryOp × Value} {rest : List (BinaryOp × Value)}

/-- A chain goes on from the result of its first operator. -/
theorem evaluateAs_cons : evaluateAs k v (p :: rest) = (evaluateAs k v [p]).bind fun u => evaluateAs k u rest := by
  cases k with
  | float =>
    simp only [evaluateAs]
    rw [fold_cons]
    cases fold (fun v => .ok (asFloat v)) floatStep (asFloat v) [p] <;> rfl
  | uint =>
    simp only [evaluateAs]
    cases asUInt v with
    | error e => rfl
    | ok a =>
      simp only [Except.bind]
      rw [fold_cons]
      cases fold asUInt uintStep a [p] <;> rfl
  | int =>
    simp only [evaluateAs]
    cases asInt v with
    | error e => rfl
    | ok a =>
      simp only [Except.bind]
      rw [fold_cons]
      cases fold asInt intStep a [p] <;> rfl

theorem map_eq_ok {A B : Type} {f : A → B} {x : Outcome A} {b : B} (h : x.map f = .ok b) :
    ∃ a, x = .ok a ∧ f a = b := by
  cases x with
  | error e => cases h
  | ok a => exact ⟨a, rfl, Except.ok.inj h⟩

theorem kind_of_evaluateAs (h : evaluateAs k v rest = .ok u) : u.kind = k.kind := by
  cases k <;> obtain ⟨_, _, rfl⟩ := map_eq_ok h <;> rfl

theorem evaluateAs_nil (h : u.kind = k.kind) : evaluateAs k u [] = .ok u := by
  cases k <;> cases u <;> first | rfl | cases h

end Arithmetic

namespace Operation

open Arithmetic

variable {level : Level} {operators : List BinaryOp} {k : Promotion} {v w : Value} {p : BinaryOp × Value}
  {rest following : List (BinaryOp × Value)}

/-! ### Numbers -/

/-- Between numbers the operators of both levels compute. -/
theorem combine_of_numeric (hlevel : level = .additive ∨ level = .multiplicative) (hv : v.kind.isNumeric = true) :
    combine level v following = Arithmetic.evaluate v following := by
  have hconcat : concat? (v :: following.map Prod.snd) = none := by
    cases v <;> first | rfl | cases hv
  rcases hlevel with rfl | rfl
  · simp [combine, hconcat]
  · rfl

/-- Once a number has the kind of the promotion, operands that the promotion admits may be taken one by one. -/
theorem foldlM_combine_of_kind (hlevel : level = .additive ∨ level = .multiplicative) (hv : v.kind = k.kind)
    (hrest : ∀ p ∈ rest, k.admits p.2.kind = true) :
    rest.foldlM (fun acc p => combine level acc [p]) v = evaluateAs k v rest := by
  induction rest generalizing v with
  | nil => exact (evaluateAs_nil hv).symm
  | cons p rest ih =>
    have hnumeric : v.kind.isNumeric = true := by
      rw [hv]
      exact k.isNumeric_kind
    have hpair : promotion [] [v, p.2] = .ok k := promotion_pair hv (hrest p (List.mem_cons_self ..))
    have hcons : evaluateAs k v (p :: rest) = (evaluateAs k v [p]).bind fun u => evaluateAs k u rest := evaluateAs_cons
    rw [List.foldlM_cons, combine_of_numeric hlevel hnumeric, evaluate_of_promotion hpair, hcons]
    cases hnext : evaluateAs k v [p] with
    | error e => rfl
    | ok u =>
      have hu := kind_of_evaluateAs hnext
      exact ih hu fun q hq => hrest q (List.mem_cons_of_mem _ hq)

/-- A chain of numbers may be taken operator by operator when its kind is that of its first two operands. -/
theorem foldlM_combine (hlevel : level = .additive ∨ level = .multiplicative) (hv : v.kind.isNumeric = true)
    (hfirst : promotion operators [v, p.2] = .ok k)
    (hall : promotion operators (v :: p.2 :: rest.map Prod.snd) = .ok k) :
    (p :: rest).foldlM (fun acc p => combine level acc [p]) v = combine level v (p :: rest) := by
  have hcons : evaluateAs k v (p :: rest) = (evaluateAs k v [p]).bind fun u => evaluateAs k u rest := evaluateAs_cons
  have hchain : Arithmetic.evaluate v (p :: rest) = evaluateAs k v (p :: rest) := evaluate_of_promotion hall
  rw [List.foldlM_cons, combine_of_numeric hlevel hv, combine_of_numeric hlevel hv, evaluate_of_promotion hfirst,
    hchain, hcons]
  cases hnext : evaluateAs k v [p] with
  | error e => rfl
  | ok u =>
    have hrest : ∀ q ∈ rest, k.admits q.2.kind = true := by
      intro q hq
      exact admits_of_promotion hall (List.mem_cons_of_mem _ (List.mem_cons_of_mem _ (List.mem_map_of_mem hq)))
    exact foldlM_combine_of_kind hlevel (kind_of_evaluateAs hnext) hrest

/-! ### Values that are no numbers -/

/-- The lists, texts or byte strings of a chain one after the other, if it is a chain of additions of such. -/
def join? (level : Level) (first : Value) (following : List (BinaryOp × Value)) : Option Value :=
  if level = .additive ∧ following.all (fun p => p.1 = .add) then concat? (first :: following.map Prod.snd) else none

/-- What a chain of values of one kind gives when they are no numbers, with the kind of the error only. -/
def joined (level : Level) (first : Value) (following : List (BinaryOp × Value)) : Except ErrorKind Value :=
  match join? level first following with
  | some v => .ok v
  | none => .error .typeMismatch

theorem mapError_evaluate (hv : v.kind.isNumeric = false) :
    (Arithmetic.evaluate v following).mapError EvalError.kind = .error .typeMismatch := by
  simp [Arithmetic.evaluate, promotion, hv, Except.bind, Except.mapError, EvalError.kind]

theorem mapError_combine (hlevel : level = .additive ∨ level = .multiplicative) (hv : v.kind.isNumeric = false) :
    (combine level v following).mapError EvalError.kind = joined level v following := by
  rcases hlevel with rfl | rfl
  · simp only [combine, joined, join?, true_and]
    cases (if following.all (fun p => p.1 = .add) then concat? (v :: following.map Prod.snd) else none) with
    | some w => rfl
    | none => exact mapError_evaluate hv
  · exact mapError_evaluate hv

theorem mapM_cons_option {A B : Type} (f : A → Option B) (a : A) (as : List A) :
    (a :: as).mapM f = (f a).bind fun b => (as.mapM f).map fun bs => b :: bs := by
  rw [List.mapM_cons]
  cases f a with
  | none => rfl
  | some b =>
    show (as.mapM f).bind _ = _
    cases as.mapM f <;> rfl

/-- Joining may go on from what the first two values give. -/
theorem concat?_cons (vs : List Value) :
    concat? (v :: w :: vs) = (concat? [v, w]).bind fun u => concat? (u :: vs) := by
  cases v with
  | list items =>
    simp only [concat?, mapM_cons_option]
    cases w.list? with
    | none => rfl
    | some more => simp [Function.comp_def]
  | string s =>
    simp only [concat?, mapM_cons_option]
    cases w.string? with
    | none => rfl
    | some t => simp [Function.comp_def, String.append_assoc]
  | bytes bs =>
    simp only [concat?, mapM_cons_option]
    cases w.bytes? with
    | none => rfl
    | some more => simp [Function.comp_def]
  | _ => rfl

theorem join?_cons :
    join? level v (p :: rest) = (join? level v [p]).bind fun u => join? level u rest := by
  simp only [join?, List.all_cons, List.all_nil, Bool.and_true, List.map_cons, List.map_nil]
  by_cases hlevel : level = .additive
  · by_cases hp : p.1 = .add
    · by_cases hrest : (rest.all fun p => p.1 = .add) = true
      · simp only [hlevel, hp, hrest]
        exact concat?_cons _
      · simp [hp, hrest]
    · simp [hp]
  · simp [hlevel]

theorem joined_cons : joined level v (p :: rest) = (joined level v [p]).bind fun u => joined level u rest := by
  simp only [joined]
  rw [join?_cons]
  cases join? level v [p] <;> rfl

theorem kind_of_concat? {u : Value} {vs : List Value} (h : concat? (v :: vs) = some u) : u.kind = v.kind := by
  cases v <;> first | cases h | (obtain ⟨_, _, rfl⟩ := Option.map_eq_some_iff.mp h; rfl)

theorem kind_of_joined {u : Value} (h : joined level v following = .ok u) : u.kind = v.kind := by
  unfold joined join? at h
  split at h
  · rename_i hjoin
    cases h
    split at hjoin
    · exact kind_of_concat? hjoin
    · cases hjoin
  · cases h

theorem mapError_bind {E E' A B : Type} (f : E → E') (x : Except E A) (g : A → Except E B) :
    (x.bind g).mapError f = (x.mapError f).bind fun a => (g a).mapError f := by
  cases x <;> rfl

/-- A chain of values that are no numbers may be taken operator by operator, up to the text of the error. -/
theorem mapError_foldlM_combine (hlevel : level = .additive ∨ level = .multiplicative)
    (hv : v.kind.isNumeric = false) :
    ((p :: rest).foldlM (fun acc p => combine level acc [p]) v).mapError EvalError.kind =
      (combine level v (p :: rest)).mapError EvalError.kind := by
  induction rest generalizing v p with
  | nil =>
    rw [List.foldlM_cons]
    cases combine level v [p] <;> rfl
  | cons q rest ih =>
    have hcons : joined level v (p :: q :: rest) = (joined level v [p]).bind fun u => joined level u (q :: rest) :=
      joined_cons
    rw [mapError_combine hlevel hv, hcons, List.foldlM_cons]
    refine (mapError_bind ..).trans ?_
    rw [mapError_combine hlevel hv]
    cases hnext : joined level v [p] with
    | error e => rfl
    | ok u =>
      -- what is joined keeps its kind, so the rest of the chain is joined to it
      have hu : u.kind.isNumeric = false := by
        rw [kind_of_joined hnext]
        exact hv
      exact (ih hu).trans (mapError_combine hlevel hu)

end Operation

/-! ### Trees -/

namespace Expr

variable {α : Type} {ctx : Context} {level : Level}

/-- The tree of chains of two operands that takes the operands of a chain from the left. -/
def nestLeft (note : α) (level : Level) (first : Expr α) (following : List (BinaryOp × Expr α)) : Expr α :=
  following.foldl (fun e p => chain note level (.pair e p.1 p.2)) first

/-- An operator and its operand, of a tree and of a value that the tree has. -/
def HasValue (ctx : Context) (p : BinaryOp × Expr α) (q : BinaryOp × Value) : Prop :=
  p.1 = q.1 ∧ p.2.eval ctx = .ok q.2

/-- Values of operands, each behind the operator of its operand. -/
theorem exists_hasValue {following : List (BinaryOp × Expr α)} {vs : List Value}
    (h : List.Forall₂ (fun e v => e.eval ctx = .ok v) (following.map Prod.snd) vs) :
    ∃ ps, List.Forall₂ (HasValue ctx) following ps ∧ vs = ps.map Prod.snd := by
  induction following generalizing vs with
  | nil =>
    cases h
    exact ⟨[], .nil, rfl⟩
  | cons p following ih =>
    cases h with
    | cons hp hrest =>
      rename_i v vs
      obtain ⟨ps, hps, rfl⟩ := ih hrest
      exact ⟨(p.1, v) :: ps, .cons ⟨rfl, hp⟩ hps, rfl⟩

theorem bind_checkOperand (hlevel : level = .additive ∨ level = .multiplicative) (x : Outcome Value) :
    x.bind (Operation.checkOperand level) = x := by
  rcases hlevel with rfl | rfl <;> cases x <;> rfl

theorem evalFollowing_of_hasValue (hlevel : level = .additive ∨ level = .multiplicative)
    {following : List (BinaryOp × Expr α)} {ps : List (BinaryOp × Value)}
    (h : List.Forall₂ (HasValue ctx) following ps) : evalFollowing ctx level following = .ok ps := by
  induction h with
  | nil => rfl
  | cons hp _ ih =>
    rename_i p q _ _
    obtain ⟨hop, hv⟩ := hp
    rw [evalFollowing, bind_checkOperand hlevel, hv, ih, hop]
    rfl

theorem eval_chain (hlevel : level = .additive ∨ level = .multiplicative) (note : α) (c : Chain (Expr α)) :
    (chain note level c).eval ctx = (c.first.eval ctx).bind fun v => (c.second.eval ctx).bind fun w =>
      (evalFollowing ctx level c.rest).bind fun more => Operation.combine level v ((c.op, w) :: more) := by
  obtain ⟨first, op, second, rest⟩ := c
  rw [eval, bind_checkOperand hlevel, bind_checkOperand hlevel]

theorem eval_chain_of_hasValue (hlevel : level = .additive ∨ level = .multiplicative) (note : α) {c : Chain (Expr α)}
    {v : Value} {ps : List (BinaryOp × Value)} (hfirst : c.first.eval ctx = .ok v)
    (hps : List.Forall₂ (HasValue ctx) c.following ps) :
    (chain note level c).eval ctx = Operation.combine level v ps := by
  cases hps with
  | cons hp hrest =>
    rename_i q more
    obtain ⟨op, w⟩ := q
    obtain ⟨rfl, hsecond⟩ : c.op = op ∧ c.second.eval ctx = .ok w := hp
    rw [eval_chain hlevel, hfirst, hsecond, evalFollowing_of_hasValue hlevel hrest]
    rfl

theorem eval_pair (hlevel : level = .additive ∨ level = .multiplicative) (note : α) {e e' : Expr α} {w : Value}
    (op : BinaryOp) (hw : e'.eval ctx = .ok w) :
    (chain note level (.pair e op e')).eval ctx = (e.eval ctx).bind fun v => Operation.combine level v [(op, w)] := by
  rw [eval_chain hlevel]
  simp only [Chain.pair, hw]
  rfl

/-- The nested chains combine the values one by one. -/
theorem eval_nestLeft_of_hasValue (hlevel : level = .additive ∨ level = .multiplicative) (note : α) {first : Expr α}
    {following : List (BinaryOp × Expr α)} {ps : List (BinaryOp × Value)}
    (hps : List.Forall₂ (HasValue ctx) following ps) :
    (nestLeft note level first following).eval ctx =
      (first.eval ctx).bind fun v => ps.foldlM (fun acc p => Operation.combine level acc [p]) v := by
  induction hps generalizing first with
  | nil =>
    rw [nestLeft, List.foldl_nil]
    cases first.eval ctx <;> rfl
  | cons hp _ ih =>
    rename_i p q following ps _
    obtain ⟨hop, hw⟩ := hp
    have hfoldl : nestLeft note level first (p :: following) =
        nestLeft note level (chain note level (.pair first p.1 p.2)) following := rfl
    rw [hfoldl, ih, eval_pair hlevel note p.1 hw, hop]
    cases first.eval ctx <;> rfl

/-- A chain of arithmetic means its nested form: of numbers whose kind is that of the first two operands both have the
same outcome, and of values of one other kind both have the same value or errors of the same kind. -/
theorem eval_nestLeft (ctx : Context) (note : α) (level : Level) (c : Chain (Expr α)) (vs : List Value)
    (hlevel : level = .additive ∨ level = .multiplicative)
    (hvs : List.Forall₂ (fun e v => e.eval ctx = .ok v) c.operands vs) :
    ((∀ v ∈ vs, v.kind.isNumeric = true) →
      Arithmetic.promotion c.operators (vs.take 2) = Arithmetic.promotion c.operators vs →
      (nestLeft note level c.first c.following).eval ctx = (chain note level c).eval ctx) ∧
    ∀ kind : Kind, kind.isNumeric = false → (∀ v ∈ vs, v.kind = kind) →
      ((nestLeft note level c.first c.following).eval ctx).mapError EvalError.kind =
        ((chain note level c).eval ctx).mapError EvalError.kind := by
  cases hvs with
  | cons hfirst hfollowing =>
    rename_i v vs
    obtain ⟨ps, hps, rfl⟩ := exists_hasValue hfollowing
    rw [eval_chain_of_hasValue hlevel note hfirst hps, eval_nestLeft_of_hasValue hlevel note hps, hfirst]
    cases hps with
    | cons _ _ =>
      rename_i p _ rest _
      constructor
      · intro hnumeric hpromotion
        obtain ⟨k, hk⟩ := Arithmetic.promotion_of_numeric c.operators hnumeric
        exact Operation.foldlM_combine hlevel (hnumeric v (List.mem_cons_self ..)) (hpromotion.trans hk) hk
      · intro kind hkind hall
        have hv : v.kind.isNumeric = false := by
          rw [hall v (List.mem_cons_self ..)]
          exact hkind
        exact Operation.mapError_foldlM_combine hlevel hv

/-- `1 + 2u - 9`, which is computed on integers from its first operator on, and `"a" + "b" - "c"`, whose first two texts
can be joined. -/
theorem eval_nestLeft_literals :
    let ctx : Context := ⟨.empty, .empty⟩
    let numbers : Chain (Expr Unit) :=
      ⟨literal () (.int 1), .add, literal () (.uint 2), [(.sub, literal () (.int 9))]⟩
    let texts : Chain (Expr Unit) :=
      ⟨literal () (.string "a"), .add, literal () (.string "b"), [(.sub, literal () (.string "c"))]⟩
    (nestLeft () .additive numbers.first numbers.following).eval ctx = (chain () .additive numbers).eval ctx ∧
    ((nestLeft () .additive texts.first texts.following).eval ctx).mapError EvalError.kind =
      ((chain () .additive texts).eval ctx).mapError EvalError.kind := by
  intro ctx numbers texts
  have hnumbers : List.Forall₂ (fun e v => e.eval ctx = .ok v) numbers.operands [.int 1, .uint 2, .int 9] :=
    .cons rfl (.cons rfl (.cons rfl .nil))
  have htexts : List.Forall₂ (fun e v => e.eval ctx = .ok v) texts.operands [.string "a", .string "b", .string "c"] :=
    .cons rfl (.cons rfl (.cons rfl .nil))
  constructor
  · refine (eval_nestLeft ctx () .additive numbers _ (.inl rfl) hnumbers).1 ?_ rfl
    simp [Value.kind, Kind.isNumeric]
  · refine (eval_nestLeft ctx () .additive texts _ (.inl rfl) htexts).2 .string rfl ?_
    simp [Value.kind]

end Expr

end ExprLang
