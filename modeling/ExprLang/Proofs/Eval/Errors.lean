import ExprLang.Library.Standard
import ExprLang.Proofs.Eval.Pairwise
import ExprLang.Proofs.Eval.Registration
import ExprLang.Proofs.Syntax.Nodes

/-!
# Errors of operations

Some errors stand in branches for operators and operands that chains and comparisons do not have
(`EvalError.IsDefensive`). An operation on values has none of them if its operator is one of its own
(`plain_relate`, `plain_combine`), and a standard function has none of them at all (`plain_dispatch_standard`).
-/

namespace ExprLang

/-- The errors of a comparison by an operator that does not compare, of a step by one that does not compute, of a
chain of `uint` with an operand that is none, and of a chain without operands. -/
def EvalError.IsDefensive : EvalError → Prop
  | notRelational _ | notArithmetic _ => True
  | typeMismatch expected _ => expected = "uint"
  | invalidArgument message => message = "empty operand list"
  | _ => False

/-- The operators that compute. -/
def BinaryOp.arithmetic : List BinaryOp := Level.additive.operators ++ Level.multiplicative.operators

/-! ### Outcomes that fail with errors of a sort -/

variable {β γ : Type} {sort : EvalError → Prop} {x : Outcome β}

/-- Every error that the outcome may be is of the given sort. -/
def FailsWith (sort : EvalError → Prop) (x : Outcome β) : Prop := ∀ e, x = .error e → sort e

namespace FailsWith

@[simp] theorem ok (b : β) : FailsWith sort (.ok b : Outcome β) := by
  intro e he
  cases he

@[simp] theorem error_iff {e : EvalError} : FailsWith sort (.error e : Outcome β) ↔ sort e :=
  ⟨fun h => h e rfl, fun h _ he => Except.error.inj he ▸ h⟩

theorem map (f : β → γ) (h : FailsWith sort x) : FailsWith sort (x.map f) := by
  cases x with
  | error e => exact error_iff.mpr (error_iff.mp h)
  | ok a => exact ok (f a)

theorem bind {f : β → Outcome γ} (h : FailsWith sort x) (hf : ∀ a, x = .ok a → FailsWith sort (f a)) :
    FailsWith sort (x.bind f) := by
  cases x with
  | error e => exact error_iff.mpr (error_iff.mp h)
  | ok a => exact hf a rfl

theorem mono {sort' : EvalError → Prop} (h : FailsWith sort x) (hsort : ∀ e, sort e → sort' e) : FailsWith sort' x :=
  fun e he => hsort e (h e he)

end FailsWith

/-- The outcome is an error of the given kind. -/
def FailsAs (kind : ErrorKind) (x : Outcome β) : Prop := ∃ e, x = .error e ∧ e.kind = kind

section FailsAs

variable {kind : ErrorKind}

@[simp] theorem failsAs_error_iff {e : EvalError} : FailsAs kind (.error e : Outcome β) ↔ e.kind = kind := by
  simp [FailsAs]

@[simp] theorem not_failsAs_ok (kind : ErrorKind) (b : β) : ¬ FailsAs kind (.ok b : Outcome β) := by
  simp [FailsAs]

@[simp] theorem failsAs_map_iff (f : β → γ) : FailsAs kind (x.map f) ↔ FailsAs kind x := by
  cases x with
  | error e => exact failsAs_error_iff.trans failsAs_error_iff.symm
  | ok b => exact iff_of_false (not_failsAs_ok kind _) (not_failsAs_ok kind b)

end FailsAs

/-- The outcome is no defensive error. -/
abbrev Plain (x : Outcome β) : Prop := FailsWith (fun e => ¬ e.IsDefensive) x

/-! ### Arithmetic -/

namespace Arithmetic

open BinaryOp (arithmetic)

variable {op : BinaryOp}

@[simp] theorem plain_toInt (operation : String) (n : Int) : Plain (toInt operation n) := by
  unfold toInt
  split <;> simp [EvalError.IsDefensive]

@[simp] theorem plain_toUInt (operation : String) (n : Int) : Plain (toUInt operation n) := by
  unfold toUInt
  split <;> simp [EvalError.IsDefensive]

theorem plain_intStep (h : op ∈ arithmetic) (a b : Int64) : Plain (intStep op a b) := by
  cases op
  case add | sub | mul => exact plain_toInt _ _
  case div | mod =>
    simp only [intStep]
    repeat' split
    all_goals simp [EvalError.IsDefensive]
  all_goals exact absurd h (by decide)

theorem plain_uintStep (h : op ∈ arithmetic) (a b : UInt64) : Plain (uintStep op a b) := by
  cases op
  case add | sub | mul => exact plain_toUInt _ _
  case div | mod =>
    simp only [uintStep]
    split <;> simp [EvalError.IsDefensive]
  all_goals exact absurd h (by decide)

theorem plain_floatStep (h : op ∈ arithmetic) (a b : Float) : Plain (floatStep op a b) := by
  cases op
  case add | sub | mul => exact .ok _
  case div | mod =>
    simp only [floatStep]
    split <;> simp [EvalError.IsDefensive]
  all_goals exact absurd h (by decide)

theorem plain_asInt (v : Value) : Plain (asInt v) := by
  cases v <;> simp [asInt, EvalError.IsDefensive]

theorem plain_promotion (operators : List BinaryOp) (operands : List Value) : Plain (promotion operators operands) := by
  unfold promotion
  repeat' split
  all_goals simp [EvalError.IsDefensive]

variable {N : Type} {promote : Value → Outcome N} {step : BinaryOp → N → N → Outcome N}
  {following : List (BinaryOp × Value)}

theorem failsWith_fold (hpromote : ∀ p ∈ following, FailsWith sort (promote p.2))
    (hstep : ∀ p ∈ following, ∀ a b, FailsWith sort (step p.1 a b)) (acc : N) :
    FailsWith sort (fold promote step acc following) := by
  induction following generalizing acc with
  | nil => exact .ok acc
  | cons p rest ih =>
    obtain ⟨hp, hrest⟩ := List.forall_mem_cons.mp hpromote
    obtain ⟨hs, hsteps⟩ := List.forall_mem_cons.mp hstep
    exact hp.bind fun b _ => (hs acc b).bind fun acc _ => ih hrest hsteps acc

/-- A chain of operators that compute is plain: the promotion to `uint` leaves no operand of another kind. -/
theorem plain_evaluate (first : Value) (h : ∀ p ∈ following, p.1 ∈ arithmetic) : Plain (evaluate first following) := by
  rw [evaluate]
  refine (plain_promotion _ _).bind fun k hk => ?_
  have hadmits (v : Value) (hv : v ∈ first :: following.map Prod.snd) : k.admits v.kind = true :=
    admits_of_promotion hk hv
  cases k with
  | float =>
    refine FailsWith.map _ (failsWith_fold ?_ ?_ _)
    · exact fun _ _ => .ok _
    · exact fun p hp => plain_floatStep (h p hp)
  | uint =>
    have hasUInt (v : Value) (hv : v ∈ first :: following.map Prod.snd) : Plain (asUInt v) := by
      have hkind := hadmits v hv
      cases v <;> first | exact .ok _ | cases hkind
    refine FailsWith.map _ ((hasUInt first (List.mem_cons_self ..)).bind fun a _ => ?_)
    refine failsWith_fold (fun p hp => ?_) (fun p hp => plain_uintStep (h p hp)) a
    exact hasUInt _ (List.mem_cons_of_mem _ (List.mem_map_of_mem hp))
  | int =>
    refine FailsWith.map _ ((plain_asInt first).bind fun a _ => ?_)
    exact failsWith_fold (fun p _ => plain_asInt p.2) (fun p hp => plain_intStep (h p hp)) a

end Arithmetic

/-! ### Operations -/

namespace Operation

variable {op : BinaryOp} {level : Level} {following : List (BinaryOp × Value)}

theorem plain_toBool {expected : String} (h : expected ≠ "uint") (v : Value) : Plain (toBool expected v) := by
  cases v <;> simp [toBool, EvalError.IsDefensive, h]

theorem plain_negate (v : Value) : Plain (negate v) := by
  cases v
  case int | uint => exact (Arithmetic.plain_toInt _ _).map _
  case float => exact .ok _
  all_goals simp [negate, EvalError.IsDefensive]

theorem plain_applySign (op : UnaryOp) (v : Value) : Plain (applySign op v) := by
  cases op with
  | neg => exact plain_negate v
  | not => exact (plain_toBool (by decide) v).map _

theorem plain_applySigns (op : UnaryOp) (count : Nat) (v : Value) : Plain (applySigns op count v) := by
  induction count generalizing v with
  | zero => exact .ok v
  | succ count ih =>
    have hsign := plain_applySign op v
    rw [applySigns]
    split
    · exact ih _
    · rename_i h
      rwa [h] at hsign

theorem plain_checkOperand (level : Level) (v : Value) : Plain (checkOperand level v) := by
  cases level with
  | or | and => exact (plain_toBool (by decide) v).map _
  | additive | multiplicative => exact .ok v

theorem plain_order (op : BinaryOp) (a b : Value) : Plain (order op a b) := by
  unfold order
  split <;> simp [EvalError.IsDefensive]

theorem plain_isMember (needle container : Value) : Plain (isMember needle container) := by
  cases container <;> simp [isMember, EvalError.IsDefensive]

/-- A comparison by an operator that compares is plain. -/
theorem plain_relate (h : op ∈ BinaryOp.comparisons) (a b : Value) : Plain (relate op a b) := by
  cases op
  case eq | ne => exact .ok _
  case lt | le | gt | ge => exact (plain_order _ a b).map _
  case member => exact plain_isMember a b
  all_goals exact absurd h (by decide)

/-- A chain with operators of its level only is plain. -/
theorem plain_combine (first : Value) (h : ∀ p ∈ following, p.1 ∈ level.operators) :
    Plain (combine level first following) := by
  cases level with
  | or | and => exact .ok _
  | additive =>
    have harithmetic : ∀ p ∈ following, p.1 ∈ BinaryOp.arithmetic := fun p hp => List.mem_append_left _ (h p hp)
    simp only [combine]
    split
    · exact .ok _
    · exact Arithmetic.plain_evaluate first harithmetic
  | multiplicative => exact Arithmetic.plain_evaluate first fun p hp => List.mem_append_right _ (h p hp)

theorem plain_index (container i : Value) : Plain (index container i) := by
  cases container
  case list items =>
    have hposition : Plain (position? i) := by
      cases i <;> simp [position?, EvalError.IsDefensive]
    refine hposition.bind fun p _ => ?_
    split <;> simp [EvalError.IsDefensive]
  case map m =>
    have hkey : Plain (indexKey i) := by
      cases i <;> simp [indexKey, EvalError.IsDefensive]
    refine hkey.bind fun k _ => ?_
    split <;> simp [EvalError.IsDefensive]
  all_goals simp [index, EvalError.IsDefensive]

theorem plain_entryKey (v : Value) : Plain (entryKey v) := by
  unfold entryKey
  split <;> simp [EvalError.IsDefensive]

end Operation

theorem Context.plain_resolve (c : Context) (name : String) : Plain (c.resolve name) := by
  unfold resolve
  split <;> simp [EvalError.IsDefensive]

/-! ### Functions -/

/-- No call of the function is a defensive error. -/
def Function.IsPlain (f : Function) : Prop := ∀ o ∈ f.overloads, ∀ args, Plain (o.call args)

namespace Registry

variable {r : Registry} {name : String}

/-- Calls fail as the overloads of the name do, or are refused. -/
theorem failsWith_dispatch (hrefusal : ∀ e : EvalError, e.isRefusal = true → sort e)
    (h : ∀ o ∈ r.overloads name, ∀ args, FailsWith sort (o.call args)) (args : List Value) :
    FailsWith sort (r.dispatch name args) := by
  rw [dispatch_eq]
  split
  · rename_i o ho
    exact h o (List.mem_of_find?_eq_some ho) args
  · exact FailsWith.error_iff.mpr (hrefusal _ (r.isRefusal_refusal name args))

/-- The overloads of a registry are those of the functions that were registered. -/
theorem mem_overloads_ofList {fs : List Function} {o : Overload} (h : o ∈ (ofList fs).overloads name) :
    ∃ f ∈ fs, o ∈ f.overloads := by
  have hfoldl (fs : List Function) (r : Registry) (h : o ∈ (fs.foldl register r).overloads name) :
      o ∈ r.overloads name ∨ ∃ f ∈ fs, o ∈ f.overloads := by
    induction fs generalizing r with
    | nil => exact .inl h
    | cons f fs ih =>
      rcases ih _ h with hr | ⟨g, hg, ho⟩
      · rw [overloads_register, List.mem_append] at hr
        rcases hr with hr | hf
        · exact .inl hr
        · split at hf
          · exact .inr ⟨f, List.mem_cons_self .., hf⟩
          · cases hf
      · exact .inr ⟨g, List.mem_cons_of_mem _ hg, ho⟩
  rcases hfoldl fs empty h with hempty | h
  · cases hempty
  · exact h

end Registry

namespace Library

variable {name : String}

theorem plain_mismatch (name : String) (args : List Value) : Plain (.error (mismatch name args) : Outcome β) := by
  simp [mismatch, EvalError.IsDefensive]

theorem plain_orError {e : EvalError} (h : ¬ e.IsDefensive) (a : Option β) : Plain (orError e a) := by
  cases a <;> simp [orError, h]

/-- Messages that begin otherwise are not that of a chain without operands. -/
theorem not_isDefensive_invalidArgument {start message : String} (h : ¬ start.toList <+: "empty operand list".toList) :
    ¬ (EvalError.invalidArgument (start ++ message)).IsDefensive := by
  intro heq
  have hlist : (start ++ message).toList = "empty operand list".toList := congrArg String.toList heq
  rw [String.toList_append] at hlist
  exact h ⟨_, hlist⟩

theorem plain_length (n : Nat) : Plain (length n) := (Arithmetic.plain_toInt _ _).map _

theorem isPlain_size : size.IsPlain := by
  intro o ho args
  simp only [size, List.mem_cons, List.not_mem_nil, or_false] at ho
  rcases ho with rfl | rfl | rfl | rfl
  all_goals
    dsimp only
    split
    · exact plain_length _
    · exact plain_mismatch _ _

theorem plain_onStrings {test : String → String → Outcome Bool} (h : ∀ s t, Plain (test s t)) (args : List Value) :
    Plain ((onStrings name test).call args) := by
  simp only [onStrings]
  split
  · exact (h _ _).map _
  · exact plain_mismatch _ _

theorem isPlain_onStrings {test : String → String → Outcome Bool} (h : ∀ s t, Plain (test s t)) :
    (Function.mk name [onStrings name test]).IsPlain :=
  List.forall_mem_singleton.mpr (plain_onStrings h)

theorem isPlain_contains : contains.IsPlain := by
  refine List.forall_mem_cons.mpr ⟨plain_onStrings fun _ _ => .ok _, List.forall_mem_singleton.mpr fun args => ?_⟩
  dsimp only
  split
  · exact .ok _
  · exact plain_mismatch _ _

theorem plain_matchesPattern (matcher : Matcher) (text pattern : String) :
    Plain (matchesPattern matcher text pattern) := by
  unfold matchesPattern
  split
  · exact .ok _
  · exact FailsWith.error_iff.mpr (not_isDefensive_invalidArgument (by decide))

theorem isPlain_conversion {kinds : List Kind} {convert : Value → Outcome Value} (h : ∀ v, Plain (convert v)) :
    (conversion name kinds convert).IsPlain := by
  intro o ho args
  obtain ⟨kind, -, rfl⟩ := List.mem_map.mp ho
  dsimp only
  split
  · exact h _
  · exact plain_mismatch _ _

theorem not_isDefensive_notConvertible (v : Value) (name : String) : ¬ (notConvertible v name).IsDefensive := by
  unfold notConvertible
  rw [String.append_assoc, String.append_assoc]
  exact not_isDefensive_invalidArgument (by decide)

theorem plain_floatToInt (f : Float) : Plain (floatToInt f) := by
  unfold floatToInt
  split <;> simp [EvalError.IsDefensive]

theorem plain_floatToUInt (f : Float) : Plain (floatToUInt f) := by
  unfold floatToUInt
  split <;> simp [EvalError.IsDefensive]

theorem plain_toInt (v : Value) : Plain (toInt v) := by
  cases v
  case int => exact .ok _
  case uint => exact (Arithmetic.plain_toInt _ _).map _
  case float => exact (plain_floatToInt _).map _
  case string => exact (plain_orError (not_isDefensive_notConvertible _ _) _).map _
  all_goals exact plain_mismatch _ _

theorem plain_toUInt (v : Value) : Plain (toUInt v) := by
  cases v
  case uint => exact .ok _
  case int => exact (Arithmetic.plain_toUInt _ _).map _
  case float => exact (plain_floatToUInt _).map _
  case string => exact (plain_orError (not_isDefensive_notConvertible _ _) _).map _
  all_goals exact plain_mismatch _ _

theorem plain_toDouble (v : Value) : Plain (toDouble v) := by
  cases v
  case int | uint | float => exact .ok _
  case string => exact (plain_orError (not_isDefensive_notConvertible _ _) _).map _
  all_goals exact plain_mismatch _ _

theorem plain_toText (v : Value) : Plain (toText v) := by
  cases v
  case string | bool | int | uint | float => exact .ok _
  case bytes => exact (plain_orError (by simp [EvalError.IsDefensive]) _).map _
  all_goals exact plain_mismatch _ _

/-- The standard functions have no defensive errors. -/
theorem plain_dispatch_standard (matcher : Matcher) (name : String) (args : List Value) :
    Plain ((standardWith matcher).dispatch name args) := by
  have hfunctions : ∀ f ∈ [size, startsWith, endsWith, contains, matching matcher, int, uint, double, string],
      f.IsPlain := by
    simp only [List.forall_mem_cons]
    exact ⟨isPlain_size, isPlain_onStrings fun _ _ => .ok _, isPlain_onStrings fun _ _ => .ok _, isPlain_contains,
      isPlain_onStrings (plain_matchesPattern matcher), isPlain_conversion plain_toInt, isPlain_conversion plain_toUInt,
      isPlain_conversion plain_toDouble, isPlain_conversion plain_toText, List.forall_mem_nil _⟩
  have hrefusal (e : EvalError) (he : e.isRefusal = true) : ¬ e.IsDefensive := by
    cases e <;> simp [EvalError.isRefusal, EvalError.IsDefensive] at he ⊢
  refine Registry.failsWith_dispatch hrefusal (fun o ho => ?_) args
  obtain ⟨f, hf, ho⟩ := Registry.mem_overloads_ofList ho
  exact hfunctions f hf o ho

end Library

end ExprLang
