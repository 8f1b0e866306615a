import ExprLang.Environment
import ExprLang.Proofs.Eval.Errors

/-!
# Branches that evaluation does not reach

The operations on chains and comparisons have branches for operators and operands that no tree has that was read. A
`Fallback` says what stands in these branches, and `Expr.evalWith` evaluates with it. With the usual fallback this is
`Expr.eval` (`evalWith_usual`). A tree that was read has the same outcome with every fallback, also with one that makes
each of the branches an error of its own, so evaluation reaches none of them (`evalWith_of_regular`).
-/

namespace ExprLang

/-- What stands in the branches for operators and operands that chains and comparisons do not have. -/
structure Fallback where
  /-- a comparison by an operator that does not compare -/
  notRelational : BinaryOp → EvalError
  /-- a step of a chain by an operator that does not compute -/
  notArithmetic : BinaryOp → EvalError
  /-- a chain of arithmetic without operands -/
  noOperands : EvalError
  /-- an operand that is no number, in a chain of floats -/
  notNumber : Value → Outcome Float
  /-- an operand that is no `uint`, in a chain of such -/
  notUInt : Value → Outcome UInt64

namespace Fallback

/-- What stands there in the operations. -/
def usual : Fallback where
  notRelational := .notRelational
  notArithmetic := .notArithmetic
  noOperands := .invalidArgument "empty operand list"
  notNumber _ := .ok (0.0 / 0.0)
  notUInt v := .error (.typeMismatch "uint" v.kind)

/-! ### Operations with a fallback -/

open Arithmetic

def relate (d : Fallback) (op : BinaryOp) (a b : Value) : Outcome Bool :=
  if op ∈ BinaryOp.comparisons then Operation.relate op a b else .error (d.notRelational op)

/-- One step of a chain, given how the operators compute. -/
def step {N : Type} (d : Fallback) (compute : BinaryOp → N → N → Outcome N) (op : BinaryOp) (a b : N) : Outcome N :=
  if op ∈ BinaryOp.arithmetic then compute op a b else .error (d.notArithmetic op)

def toFloat (d : Fallback) (v : Value) : Outcome Float :=
  if v.kind.isNumeric then .ok (asFloat v) else d.notNumber v

def toUInt (d : Fallback) (v : Value) : Outcome UInt64 :=
  if v.kind = .uint then asUInt v else d.notUInt v

/-- The value of a chain of numbers that are brought to the kind of the promotion. -/
def evaluateAs (d : Fallback) (k : Promotion) (first : Value) (following : List (BinaryOp × Value)) : Outcome Value :=
  match k with
  | .float => ((d.toFloat first).bind fun a => fold d.toFloat (d.step floatStep) a following).map .float
  | .uint => ((d.toUInt first).bind fun a => fold d.toUInt (d.step uintStep) a following).map .uint
  | .int => ((asInt first).bind fun a => fold asInt (d.step intStep) a following).map .int

/-- The value of a chain of numbers, from its lists of operators and operands. -/
def evaluate (d : Fallback) (operators : List BinaryOp) : List Value → Outcome Value
  | [] => .error d.noOperands
  | first :: rest =>
    (promotion operators (first :: rest)).bind fun k => d.evaluateAs k first (operators.zip rest)

/-- The value of a chain, from its lists of operators and operands. -/
def combine (d : Fallback) (level : Level) (operators : List BinaryOp) (operands : List Value) : Outcome Value :=
  match level with
  | .or => .ok (.bool (operands.any fun v => v.bool? == some true))
  | .and => .ok (.bool (operands.all fun v => v.bool? == some true))
  | .additive =>
    match if operators.all fun op => op = .add then Operation.concat? operands else none with
    | some v => .ok v
    | none => d.evaluate operators operands
  | .multiplicative => d.evaluate operators operands

end Fallback

/-! ### Evaluation with a fallback -/

namespace Expr

variable {α : Type}

mutual

/-- The value of an expression, with a fallback in the operations. -/
def evalWith (d : Fallback) (c : Context) : Expr α → Outcome Value
  | literal _ l => .ok l.toValue
  | name _ s => c.resolve s
  | list _ items => (evalItemsWith d c items).map .list
  | map _ entries => (evalEntriesWith d c entries).map .ofEntries
  | unary _ op count e => (e.evalWith d c).bind fun v => Operation.applySigns op count v
  | chain _ level ⟨first, op, second, rest⟩ =>
    ((first.evalWith d c).bind (Operation.checkOperand level)).bind fun a =>
      ((second.evalWith d c).bind (Operation.checkOperand level)).bind fun b =>
        (evalFollowingWith d c level rest).bind fun more =>
          d.combine level (op :: more.map Prod.fst) (a :: b :: more.map Prod.snd)
  | relation _ op l r =>
    (l.evalWith d c).bind fun a => (r.evalWith d c).bind fun b => (d.relate op a b).map .bool
  | ternary _ cond yes no =>
    (cond.evalWith d c).bind fun v => (Operation.toBool "bool condition" v).bind fun b =>
      if b then yes.evalWith d c else no.evalWith d c
  | index _ base position =>
    (base.evalWith d c).bind fun v => (position.evalWith d c).bind fun i => Operation.index v i
  | call _ callee args =>
    match callee with
    | name _ f => (evalItemsWith d c args).bind fun vs => c.functions.dispatch f vs
    | _ => .error .notCallable
  termination_by structural e => e

def evalItemsWith (d : Fallback) (c : Context) : List (Expr α) → Outcome (List Value)
  | [] => .ok []
  | e :: es => (e.evalWith d c).bind fun v => (evalItemsWith d c es).map fun vs => v :: vs
  termination_by structural es => es

def evalEntriesWith (d : Fallback) (c : Context) : List (Expr α × Expr α) → Outcome (List (Key × Value))
  | [] => .ok []
  | (k, v) :: es =>
    (k.evalWith d c).bind fun a => (v.evalWith d c).bind fun b => (Operation.entryKey a).bind fun key =>
      (evalEntriesWith d c es).map fun entries => (key, b) :: entries
  termination_by structural es => es

def evalFollowingWith (d : Fallback) (c : Context) (level : Level) :
    List (BinaryOp × Expr α) → Outcome (List (BinaryOp × Value))
  | [] => .ok []
  | (op, e) :: es =>
    ((e.evalWith d c).bind (Operation.checkOperand level)).bind fun v =>
      (evalFollowingWith d c level es).map fun more => (op, v) :: more
  termination_by structural es => es

end

end Expr

/-! ### Operations that do not ask for the fallback -/

namespace Fallback

open Arithmetic

variable {d : Fallback} {op : BinaryOp} {level : Level} {v : Value} {following : List (BinaryOp × Value)}

/-- What the usual fallback gives is what the operation gives, and for a comparison there is no need of it. -/
theorem relate_eq (h : d = usual ∨ op ∈ BinaryOp.comparisons) (a b : Value) :
    d.relate op a b = Operation.relate op a b := by
  unfold relate
  split
  · rfl
  · rename_i hop
    obtain rfl : d = usual := h.resolve_right hop
    cases op <;> first | rfl | exact absurd (by decide) hop

/-- So it is with a step of a chain that has the usual error for the operators that do not compute. -/
theorem step_eq {N : Type} {compute : BinaryOp → N → N → Outcome N} (h : d = usual ∨ op ∈ BinaryOp.arithmetic)
    (hcompute : ∀ a b, op ∉ BinaryOp.arithmetic → compute op a b = .error (.notArithmetic op)) :
    d.step compute op = compute op := by
  funext a b
  unfold step
  split
  · rfl
  · rename_i hop
    obtain rfl : d = usual := h.resolve_right hop
    exact (hcompute a b hop).symm

theorem intStep_of_not_mem (a b : Int64) (h : op ∉ BinaryOp.arithmetic) :
    intStep op a b = .error (.notArithmetic op) := by
  cases op <;> first | rfl | exact absurd (by decide) h

theorem uintStep_of_not_mem (a b : UInt64) (h : op ∉ BinaryOp.arithmetic) :
    uintStep op a b = .error (.notArithmetic op) := by
  cases op <;> first | rfl | exact absurd (by decide) h

theorem floatStep_of_not_mem (a b : Float) (h : op ∉ BinaryOp.arithmetic) :
    floatStep op a b = .error (.notArithmetic op) := by
  cases op <;> first | rfl | exact absurd (by decide) h

theorem toFloat_eq (h : d = usual ∨ v.kind.isNumeric = true) : d.toFloat v = .ok (asFloat v) := by
  unfold toFloat
  split
  · rfl
  · rename_i hv
    obtain rfl : d = usual := h.resolve_right hv
    cases v <;> first | rfl | exact absurd rfl hv

theorem toUInt_eq (h : d = usual ∨ v.kind = .uint) : d.toUInt v = Arithmetic.asUInt v := by
  unfold toUInt
  split
  · rfl
  · rename_i hv
    obtain rfl : d = usual := h.resolve_right hv
    cases v <;> first | rfl | exact absurd rfl hv

private theorem fold_congr {N : Type} {promote promote' : Value → Outcome N} {step step' : BinaryOp → N → N → Outcome N}
    (hpromote : ∀ p ∈ following, promote p.2 = promote' p.2) (hstep : ∀ p ∈ following, step p.1 = step' p.1) (acc : N) :
    fold promote step acc following = fold promote' step' acc following := by
  induction following generalizing acc with
  | nil => rfl
  | cons p rest ih =>
    obtain ⟨hp, hrest⟩ := List.forall_mem_cons.mp hpromote
    obtain ⟨hs, hsteps⟩ := List.forall_mem_cons.mp hstep
    rw [fold, fold, hp, hs]
    exact congrArg _ (funext fun b => congrArg _ (funext fun acc => ih hrest hsteps acc))

/-- Where the promotion admits all operands only the operators of the steps can ask for the fallback. -/
theorem evaluateAs_eq {k : Promotion} (h : ∀ p ∈ following, d = usual ∨ p.1 ∈ BinaryOp.arithmetic)
    (hv : k.admits v.kind = true) (hfollowing : ∀ p ∈ following, k.admits p.2.kind = true) :
    d.evaluateAs k v following = Arithmetic.evaluateAs k v following := by
  cases k with
  | float =>
    rw [evaluateAs, toFloat_eq (.inr hv)]
    refine congrArg _ (fold_congr (fun p hp => ?_) (fun p hp => ?_) _)
    · exact toFloat_eq (.inr (hfollowing p hp))
    · exact step_eq (h p hp) floatStep_of_not_mem
  | uint =>
    have hkind {v : Value} (h : Promotion.uint.admits v.kind = true) : v.kind = .uint := of_decide_eq_true h
    rw [evaluateAs, toUInt_eq (.inr (hkind hv))]
    refine congrArg _ (congrArg _ (funext fun a => fold_congr (fun p hp => ?_) (fun p hp => ?_) a))
    · exact toUInt_eq (.inr (hkind (hfollowing p hp)))
    · exact step_eq (h p hp) uintStep_of_not_mem
  | int =>
    rw [evaluateAs]
    refine congrArg _ (congrArg _ (funext fun a => fold_congr (fun p _ => rfl) (fun p hp => ?_) a))
    exact step_eq (h p hp) intStep_of_not_mem

/-- The promotion admits the operands, so only the operators of the steps can ask for the fallback. -/
theorem evaluate_eq (h : ∀ p ∈ following, d = usual ∨ p.1 ∈ BinaryOp.arithmetic) (first : Value) :
    d.evaluate (following.map Prod.fst) (first :: following.map Prod.snd) = Arithmetic.evaluate first following := by
  have hzip : (following.map Prod.fst).zip (following.map Prod.snd) = following := (List.zip_of_prod rfl rfl).symm
  rw [evaluate, hzip]
  cases hk : promotion (following.map Prod.fst) (first :: following.map Prod.snd) with
  | error e =>
    rw [Arithmetic.evaluate, hk]
    rfl
  | ok k =>
    obtain ⟨hfirst, hrest⟩ := List.forall_mem_cons.mp fun v hv => admits_of_promotion hk hv
    rw [evaluate_of_promotion hk]
    exact evaluateAs_eq h hfirst (List.forall_mem_map.mp hrest)

theorem combine_eq (h : ∀ p ∈ following, d = usual ∨ p.1 ∈ level.operators) (first : Value) :
    d.combine level (following.map Prod.fst) (first :: following.map Prod.snd) =
      Operation.combine level first following := by
  cases level with
  | or | and => rfl
  | additive =>
    have hadditive : ((following.map Prod.fst).all fun op => op = .add) = following.all fun p => p.1 = .add :=
      List.all_map
    simp only [combine, Operation.combine, hadditive]
    cases (if following.all (fun p => p.1 = .add) then Operation.concat? (first :: following.map Prod.snd)
      else none) with
    | some v => rfl
    | none => exact evaluate_eq (fun p hp => (h p hp).imp_right (List.mem_append_left _)) first
  | multiplicative => exact evaluate_eq (fun p hp => (h p hp).imp_right (List.mem_append_right _)) first

end Fallback

/-! ### Trees that do not ask for the fallback -/

variable {α β γ : Type} {sort : EvalError → Prop}

/-- The outcomes are the same, and no error but one of the given sort. -/
def Same (sort : EvalError → Prop) (x y : Outcome β) : Prop := x = y ∧ FailsWith sort y

namespace Same

variable {x y : Outcome β}

theorem refl (h : FailsWith sort x) : Same sort x x := ⟨rfl, h⟩

theorem bind {f g : β → Outcome γ} (h : Same sort x y) (hf : ∀ a, y = .ok a → Same sort (f a) (g a)) :
    Same sort (x.bind f) (y.bind g) := by
  obtain ⟨rfl, hx⟩ := h
  refine ⟨?_, hx.bind fun a ha => (hf a ha).2⟩
  cases x with
  | error e => rfl
  | ok a => exact (hf a rfl).1

theorem map (f : β → γ) (h : Same sort x y) : Same sort (x.map f) (y.map f) := by
  obtain ⟨rfl, hx⟩ := h
  exact ⟨rfl, hx.map f⟩

end Same

namespace Expr

variable {d : Fallback} {c : Context}

/-- The operation at the root does not ask for the fallback, whatever the values of the operands. -/
def Spares (d : Fallback) (sort : EvalError → Prop) : Expr α → Prop
  | chain _ level ch =>
    ∀ first following, following.map Prod.fst = ch.operators →
      Same sort (d.combine level (following.map Prod.fst) (first :: following.map Prod.snd))
        (Operation.combine level first following)
  | relation _ op _ _ => ∀ a b, Same sort (d.relate op a b) (Operation.relate op a b)
  | _ => True

theorem spares_usual (e : Expr α) : e.Spares .usual fun _ => True := by
  cases e
  case chain _ level ch =>
    exact fun first following _ => ⟨Fallback.combine_eq (fun _ _ => .inl rfl) first, fun _ _ => trivial⟩
  case relation _ op l r =>
    exact fun a b => ⟨Fallback.relate_eq (.inl rfl) a b, fun _ _ => trivial⟩
  all_goals trivial

/-- A node that fits spares each fallback. -/
theorem spares_of_fits (d : Fallback) (hsort : ∀ e : EvalError, ¬ e.IsDefensive → sort e) {e : Expr α} (h : e.Fits) :
    e.Spares d sort := by
  cases e
  case chain _ level ch =>
    intro first following hoperators
    have hlevel : ∀ p ∈ following, p.1 ∈ level.operators := by
      intro p hp
      refine h.1 p.1 ?_
      rw [← hoperators]
      exact List.mem_map_of_mem hp
    exact ⟨Fallback.combine_eq (fun p hp => .inr (hlevel p hp)) first,
      (Operation.plain_combine first hlevel).mono hsort⟩
  case relation _ op l r =>
    exact fun a b => ⟨Fallback.relate_eq (.inr h) a b, (Operation.plain_relate h a b).mono hsort⟩
  all_goals trivial

/-- Evaluation keeps the operators of a chain. -/
theorem operators_of_evalFollowing {level : Level} {es : List (BinaryOp × Expr α)} {more : List (BinaryOp × Value)}
    (h : evalFollowing c level es = .ok more) : more.map Prod.fst = es.map Prod.fst := by
  induction es generalizing more with
  | nil =>
    cases h
    rfl
  | cons p es ih =>
    obtain ⟨op, e⟩ := p
    rw [evalFollowing] at h
    cases hv : (e.eval c).bind (Operation.checkOperand level) with
    | error err =>
      rw [hv] at h
      cases h
    | ok v =>
      rw [hv] at h
      obtain ⟨more', hmore, rfl⟩ := Arithmetic.map_eq_ok h
      rw [List.map_cons, List.map_cons, ih hmore]

mutual

/-- Where each node spares the fallback the outcome does not depend on it. -/
theorem evalWith_same (hsort : ∀ e : EvalError, ¬ e.IsDefensive → sort e)
    (hcalls : ∀ f args, FailsWith sort (c.functions.dispatch f args)) :
    ∀ e : Expr α, (∀ n ∈ e.nodes, n.Spares d sort) → Same sort (e.evalWith d c) (e.eval c)
  | literal _ _, _ => .refl (.ok _)
  | name _ s, _ => .refl ((c.plain_resolve s).mono hsort)
  | list _ items, h => (evalItemsWith_same hsort hcalls items (List.forall_mem_cons.mp h).2).map _
  | map _ entries, h => (evalEntriesWith_same hsort hcalls entries (List.forall_mem_cons.mp h).2).map _
  | unary _ op count e, h =>
    (evalWith_same hsort hcalls e (List.forall_mem_cons.mp h).2).bind fun v _ =>
      .refl ((Operation.plain_applySigns op count v).mono hsort)
  | chain _ level ⟨first, op, second, rest⟩, h => by
    obtain ⟨hroot, h⟩ := List.forall_mem_cons.mp h
    obtain ⟨hfirst, h⟩ := List.forall_mem_append.mp h
    obtain ⟨hsecond, hrest⟩ := List.forall_mem_append.mp h
    have checked {e : Expr α} (he : Same sort (e.evalWith d c) (e.eval c)) :
        Same sort ((e.evalWith d c).bind (Operation.checkOperand level))
          ((e.eval c).bind (Operation.checkOperand level)) :=
      he.bind fun v _ => .refl ((Operation.plain_checkOperand level v).mono hsort)
    refine (checked (evalWith_same hsort hcalls first hfirst)).bind fun a _ => ?_
    refine (checked (evalWith_same hsort hcalls second hsecond)).bind fun b _ => ?_
    refine (evalFollowingWith_same hsort hcalls rest hrest).bind fun more hmore => ?_
    exact hroot a ((op, b) :: more) (congrArg (op :: ·) (operators_of_evalFollowing hmore))
  | relation _ op l r, h => by
    obtain ⟨hroot, h⟩ := List.forall_mem_cons.mp h
    obtain ⟨hl, hr⟩ := List.forall_mem_append.mp h
    refine (evalWith_same hsort hcalls l hl).bind fun a _ => ?_
    exact (evalWith_same hsort hcalls r hr).bind fun b _ => (hroot a b).map _
  | ternary _ cond yes no, h => by
    obtain ⟨hcond, h⟩ := List.forall_mem_append.mp (List.forall_mem_cons.mp h).2
    obtain ⟨hyes, hno⟩ := List.forall_mem_append.mp h
    refine (evalWith_same hsort hcalls cond hcond).bind fun v _ => ?_
    refine (Same.refl ((Operation.plain_toBool (by decide) v).mono hsort)).bind fun b _ => ?_
    cases b with
    | true => exact evalWith_same hsort hcalls yes hyes
    | false => exact evalWith_same hsort hcalls no hno
  | index _ base position, h => by
    obtain ⟨hbase, hposition⟩ := List.forall_mem_append.mp (List.forall_mem_cons.mp h).2
    refine (evalWith_same hsort hcalls base hbase).bind fun v _ => ?_
    refine (evalWith_same hsort hcalls position hposition).bind fun i _ => ?_
    exact .refl ((Operation.plain_index v i).mono hsort)
  | call _ callee args, h => by
    obtain ⟨-, hargs⟩ := List.forall_mem_append.mp (List.forall_mem_cons.mp h).2
    -- what is called is not evaluated
    cases callee with
    | name _ f => exact (evalItemsWith_same hsort hcalls args hargs).bind fun vs _ => .refl (hcalls f vs)
    | _ => exact .refl (FailsWith.error_iff.mpr (hsort _ id))
  termination_by structural e => e

theorem evalItemsWith_same (hsort : ∀ e : EvalError, ¬ e.IsDefensive → sort e)
    (hcalls : ∀ f args, FailsWith sort (c.functions.dispatch f args)) :
    ∀ es : List (Expr α), (∀ n ∈ nodesItems es, n.Spares d sort) →
      Same sort (evalItemsWith d c es) (evalItems c es)
  | [], _ => .refl (.ok _)
  | e :: es, h => by
    obtain ⟨he, hes⟩ := List.forall_mem_append.mp h
    exact (evalWith_same hsort hcalls e he).bind fun _ _ => (evalItemsWith_same hsort hcalls es hes).map _
  termination_by structural es => es

theorem evalEntriesWith_same (hsort : ∀ e : EvalError, ¬ e.IsDefensive → sort e)
    (hcalls : ∀ f args, FailsWith sort (c.functions.dispatch f args)) :
    ∀ es : List (Expr α × Expr α), (∀ n ∈ nodesEntries es, n.Spares d sort) →
      Same sort (evalEntriesWith d c es) (evalEntries c es)
  | [], _ => .refl (.ok _)
  | (k, v) :: es, h => by
    obtain ⟨hk, h⟩ := List.forall_mem_append.mp h
    obtain ⟨hv, hes⟩ := List.forall_mem_append.mp h
    refine (evalWith_same hsort hcalls k hk).bind fun a _ => (evalWith_same hsort hcalls v hv).bind fun b _ => ?_
    refine (Same.refl ((Operation.plain_entryKey a).mono hsort)).bind fun key _ => ?_
    exact (evalEntriesWith_same hsort hcalls es hes).map _
  termination_by structural es => es

theorem evalFollowingWith_same (hsort : ∀ e : EvalError, ¬ e.IsDefensive → sort e)
    (hcalls : ∀ f args, FailsWith sort (c.functions.dispatch f args)) {level : Level} :
    ∀ es : List (BinaryOp × Expr α), (∀ n ∈ nodesFollowing es, n.Spares d sort) →
      Same sort (evalFollowingWith d c level es) (evalFollowing c level es)
  | [], _ => .refl (.ok _)
  | (op, e) :: es, h => by
    obtain ⟨he, hes⟩ := List.forall_mem_append.mp h
    have hchecked : Same sort ((e.evalWith d c).bind (Operation.checkOperand level))
        ((e.eval c).bind (Operation.checkOperand level)) :=
      (evalWith_same hsort hcalls e he).bind fun v _ => .refl ((Operation.plain_checkOperand level v).mono hsort)
    exact hchecked.bind fun _ _ => (evalFollowingWith_same hsort hcalls es hes).map _
  termination_by structural es => es

end

/-- With the usual fallback evaluation is evaluation. -/
theorem evalWith_usual (c : Context) (e : Expr α) : e.evalWith .usual c = e.eval c := by
  have hsame : Same (fun _ => True) (e.evalWith .usual c) (e.eval c) :=
    evalWith_same (fun _ _ => trivial) (fun _ _ _ _ => trivial) e fun n _ => spares_usual n
  exact hsame.1

/-- The outcome of a regular tree does not depend on the fallback. -/
theorem evalWith_of_regular {e : Expr α} (h : e.Regular) (d : Fallback) (c : Context) :
    e.evalWith d c = e.eval c := by
  have hsame : Same (fun _ => True) (e.evalWith d c) (e.eval c) :=
    evalWith_same (fun _ _ => trivial) (fun _ _ _ _ => trivial) e fun n hn =>
      spares_of_fits d (fun _ _ => trivial) (h n hn)
  exact hsame.1

/-- A regular tree with the standard functions has no defensive errors. -/
theorem plain_eval_of_regular {e : Expr α} (h : e.Regular) (matcher : Library.Matcher) (scope : Scope) :
    Plain (e.eval ⟨scope, Library.standardWith matcher⟩) := by
  have hsame : Same (fun e => ¬ e.IsDefensive) (e.evalWith .usual ⟨scope, Library.standardWith matcher⟩)
      (e.eval ⟨scope, Library.standardWith matcher⟩) :=
    evalWith_same (fun _ => id) (Library.plain_dispatch_standard matcher) e fun n hn =>
      spares_of_fits .usual (fun _ => id) (h n hn)
  exact hsame.2

/-- A comparison by an operator that does not compare asks for the fallback. -/
example (d : Fallback) :
    (relation () .add (literal () (.int 1)) (literal () (.int 2))).evalWith d ⟨.empty, .empty⟩ =
      .error (d.notRelational .add) := rfl

end Expr

/-- A tree that was read reaches none of the branches for operators and operands that chains and comparisons do not
have. Its nodes hold operators of their own kind only, and as many as belong there, so its outcome is the same whatever
stands in these branches; for the errors and the number that do stand there it is that of evaluation. With the standard
functions, whatever patterns mean, none of these errors is the outcome in any scope. -/
theorem branches_not_reached :
    (∀ (c : Context) (e : SpannedExpr), e.evalWith .usual c = e.eval c) ∧
    ∀ (limit : Nat) (source : String) (e : SpannedExpr), parse limit source = .ok e →
      (∀ n ∈ e.nodes, n.Fits) ∧
      (∀ (d : Fallback) (c : Context), e.evalWith d c = e.eval c) ∧
      ∀ (matcher : Library.Matcher) (scope : Scope) (err : EvalError),
        e.eval ⟨scope, Library.standardWith matcher⟩ = .error err → ¬ err.IsDefensive := by
  refine ⟨Expr.evalWith_usual, fun limit source e h => ?_⟩
  have hregular : e.Regular := regular_of_parse h
  exact ⟨hregular, Expr.evalWith_of_regular hregular, fun matcher => Expr.plain_eval_of_regular hregular matcher⟩

/-- A text with chains of all levels, a comparison and signs, one of them in brackets. -/
theorem branches_not_reached_of_levels :
    ∃ e, parse 2 "!!a || x - 2.5 * (y % 3 + 1u) < 4 && b" = .ok e ∧ e.nodes.length = 16 ∧
      (∀ n ∈ e.nodes, n.Fits) ∧ (∀ d c, e.evalWith d c = e.eval c) ∧
      ∀ scope err, evaluate e scope = .error err → ¬ err.IsDefensive := by
  have hnodes : (parse 2 "!!a || x - 2.5 * (y % 3 + 1u) < 4 && b").toOption.map (·.nodes.length) = some 16 := by
    decide +kernel
  cases h : parse 2 "!!a || x - 2.5 * (y % 3 + 1u) < 4 && b" with
  | error err =>
    rw [h] at hnodes
    cases hnodes
  | ok e =>
    rw [h] at hnodes
    obtain ⟨hfits, hfallback, hplain⟩ := branches_not_reached.2 _ _ e h
    exact ⟨e, rfl, Option.some.inj hnodes, hfits, hfallback, hplain Regex.matcher⟩

end ExprLang
