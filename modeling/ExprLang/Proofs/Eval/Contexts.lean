import ExprLang.Eval.Evaluate

/-!
# Evaluation in two contexts

What a tree comes to in two contexts is compared step by step. `Kept sort x y` says that the second of two outcomes is
the first one, unless that is an error of the given sort; the steps of an evaluation keep their outcomes when the names
that the tree reads and the calls do (`eval_kept`). With no errors excepted, two scopes that agree on these names give
the same outcome; with unknown names excepted, a value stays what it is when more names are bound (`eval_of_reads`).
-/

namespace ExprLang

variable {α β γ : Type} {sort : EvalError → Prop}

/-! ### Outcomes that are kept -/

/-- The second outcome is the first one, unless that is an error of the given sort. -/
def Kept (sort : EvalError → Prop) (x y : Outcome β) : Prop := x = y ∨ ∃ e, sort e ∧ x = .error e

namespace Kept

variable {x y : Outcome β}

theorem refl (x : Outcome β) : Kept sort x x := .inl rfl

theorem bind {f g : β → Outcome γ} (h : Kept sort x y) (hf : ∀ a, Kept sort (f a) (g a)) :
    Kept sort (x.bind f) (y.bind g) := by
  rcases h with rfl | ⟨e, he, rfl⟩
  · cases x with
    | error e => exact refl _
    | ok a => exact hf a
  · exact .inr ⟨e, he, rfl⟩

theorem map (f : β → γ) (h : Kept sort x y) : Kept sort (x.map f) (y.map f) := by
  rcases h with rfl | ⟨e, he, rfl⟩
  · exact refl _
  · exact .inr ⟨e, he, rfl⟩

theorem mono {sort' : EvalError → Prop} (h : Kept sort x y) (hsort : ∀ e, sort e → sort' e) : Kept sort' x y := by
  rcases h with rfl | ⟨e, he, rfl⟩
  · exact refl _
  · exact .inr ⟨e, hsort e he, rfl⟩

/-- A value is kept in any case. -/
theorem eq_ok (h : Kept sort x y) {a : β} (hx : x = .ok a) : y = .ok a := by
  rcases h with rfl | ⟨e, -, rfl⟩
  · exact hx
  · cases hx

/-- Where no error is excepted the outcomes are the same. -/
theorem eq (h : Kept (fun _ => False) x y) : x = y := by
  rcases h with h | ⟨_, he, _⟩
  · exact h
  · exact he.elim

end Kept

/-- Each call is kept when the functions of `s` take the place of those of `r`. -/
def Registry.Keeps (sort : EvalError → Prop) (r s : Registry) : Prop :=
  ∀ f args, Kept sort (r.dispatch f args) (s.dispatch f args)

theorem Registry.Keeps.refl (r : Registry) : r.Keeps sort r := fun _ _ => .refl _

/-! ### Names -/

/-- What a name comes to in a context. -/
def Context.resolve (c : Context) (name : String) : Outcome Value :=
  match c.scope name with
  | some v => .ok v
  | none => .error (.unknownIdentifier name)

/-- The scope `t` has all names of the scope `s`, with the same values. -/
def Scope.Extends (t s : Scope) : Prop := ∀ name v, s name = some v → t name = some v

/-- A name is kept in a larger scope, unless it was unknown. -/
theorem Context.resolve_kept {functions : Registry} {s t : Scope} (h : t.Extends s) (name : String) :
    Kept (fun e => e = .unknownIdentifier name) (resolve ⟨s, functions⟩ name) (resolve ⟨t, functions⟩ name) := by
  unfold resolve
  dsimp only
  cases hs : s name with
  | none => exact .inr ⟨_, rfl, rfl⟩
  | some v =>
    rw [h name v hs]
    exact .refl _

namespace Bindings

theorem get?_insert (b : Bindings) (name other : String) (v : Value) :
    (b.insert name v).get? other = if other = name then some v else b.get? other := by
  by_cases h : other = name
  · simp [get?, insert, h]
  · have hkeep (e : String × Value) : (!decide (e.1 = name) && decide (e.1 = other)) = decide (e.1 = other) := by
      grind
    simp [get?, insert, erase, h, Ne.symm h, List.find?_filter, hkeep]

/-- Binding a name that is not bound extends the scope. -/
theorem extends_insert {b : Bindings} {name : String} (h : b.get? name = none) (v : Value) :
    (b.insert name v).scope.Extends b.scope := by
  intro other w hw
  have hne : other ≠ name := by
    rintro rfl
    rw [scope, h] at hw
    cases hw
  rw [scope, get?_insert, if_neg hne]
  exact hw

end Bindings

/-! ### Trees -/

namespace Expr

mutual

/-- The names that stand in a tree as operands. The name of a called function is none of them. -/
def reads : Expr α → List String
  | literal _ _ => []
  | name _ s => [s]
  | list _ items => readsItems items
  | map _ entries => readsEntries entries
  | unary _ _ _ e => e.reads
  | chain _ _ ⟨first, _, second, rest⟩ => first.reads ++ (second.reads ++ readsFollowing rest)
  | relation _ _ l r => l.reads ++ r.reads
  | ternary _ cond yes no => cond.reads ++ (yes.reads ++ no.reads)
  | index _ base position => base.reads ++ position.reads
  | call _ (name _ _) args => readsItems args
  | call _ callee args => callee.reads ++ readsItems args

def readsItems : List (Expr α) → List String
  | [] => []
  | e :: es => e.reads ++ readsItems es

def readsEntries : List (Expr α × Expr α) → List String
  | [] => []
  | (k, v) :: es => k.reads ++ (v.reads ++ readsEntries es)

def readsFollowing : List (BinaryOp × Expr α) → List String
  | [] => []
  | (_, e) :: es => e.reads ++ readsFollowing es

end

variable {c c' : Context}

mutual

/-- A tree keeps its outcome when its names and all calls do. -/
theorem eval_kept (hcalls : c.functions.Keeps sort c'.functions) :
    ∀ e : Expr α, (∀ s ∈ e.reads, Kept sort (c.resolve s) (c'.resolve s)) → Kept sort (e.eval c) (e.eval c')
  | literal _ _, _ => .refl _
  | name _ s, h => h s (List.mem_singleton_self s)
  | list _ items, h => (evalItems_kept hcalls items h).map _
  | map _ entries, h => (evalEntries_kept hcalls entries h).map _
  | unary _ op count e, h => (eval_kept hcalls e h).bind fun _ => .refl _
  | chain _ level ⟨first, op, second, rest⟩, h => by
    obtain ⟨hfirst, h⟩ := List.forall_mem_append.mp h
    obtain ⟨hsecond, hrest⟩ := List.forall_mem_append.mp h
    have checked {e : Expr α} (he : Kept sort (e.eval c) (e.eval c')) :
        Kept sort ((e.eval c).bind (Operation.checkOperand level)) ((e.eval c').bind (Operation.checkOperand level)) :=
      he.bind fun _ => .refl _
    refine (checked (eval_kept hcalls first hfirst)).bind fun _ => ?_
    refine (checked (eval_kept hcalls second hsecond)).bind fun _ => ?_
    exact (evalFollowing_kept hcalls rest hrest).bind fun _ => .refl _
  | relation _ op l r, h => by
    obtain ⟨hl, hr⟩ := List.forall_mem_append.mp h
    exact (eval_kept hcalls l hl).bind fun _ => (eval_kept hcalls r hr).bind fun _ => .refl _
  | ternary _ cond yes no, h => by
    obtain ⟨hcond, h⟩ := List.forall_mem_append.mp h
    obtain ⟨hyes, hno⟩ := List.forall_mem_append.mp h
    refine (eval_kept hcalls cond hcond).bind fun v => ?_
    refine (Kept.refl (Operation.toBool "bool condition" v)).bind fun b => ?_
    cases b with
    | true => exact eval_kept hcalls yes hyes
    | false => exact eval_kept hcalls no hno
  | index _ base position, h => by
    obtain ⟨hbase, hposition⟩ := List.forall_mem_append.mp h
    exact (eval_kept hcalls base hbase).bind fun _ => (eval_kept hcalls position hposition).bind fun _ => .refl _
  | call _ callee args, h => by
    have hargs := evalItems_kept hcalls args
    -- what is called is not evaluated; it is an error in both contexts if it is no name
    cases callee with
    | name _ f => exact (hargs h).bind fun vs => hcalls f vs
    | _ => exact .refl _
  termination_by structural e => e

theorem evalItems_kept (hcalls : c.functions.Keeps sort c'.functions) :
    ∀ es : List (Expr α), (∀ s ∈ readsItems es, Kept sort (c.resolve s) (c'.resolve s)) →
      Kept sort (evalItems c es) (evalItems c' es)
  | [], _ => .refl _
  | e :: es, h => by
    obtain ⟨he, hes⟩ := List.forall_mem_append.mp h
    exact (eval_kept hcalls e he).bind fun _ => (evalItems_kept hcalls es hes).map _
  termination_by structural es => es

theorem evalEntries_kept (hcalls : c.functions.Keeps sort c'.functions) :
    ∀ es : List (Expr α × Expr α), (∀ s ∈ readsEntries es, Kept sort (c.resolve s) (c'.resolve s)) →
      Kept sort (evalEntries c es) (evalEntries c' es)
  | [], _ => .refl _
  | (k, v) :: es, h => by
    obtain ⟨hk, h⟩ := List.forall_mem_append.mp h
    obtain ⟨hv, hes⟩ := List.forall_mem_append.mp h
    refine (eval_kept hcalls k hk).bind fun a => (eval_kept hcalls v hv).bind fun _ => ?_
    exact (Kept.refl (Operation.entryKey a)).bind fun _ => (evalEntries_kept hcalls es hes).map _
  termination_by structural es => es

theorem evalFollowing_kept (hcalls : c.functions.Keeps sort c'.functions) {level : Level} :
    ∀ es : List (BinaryOp × Expr α),
      (∀ s ∈ readsFollowing es, Kept sort (c.resolve s) (c'.resolve s)) →
      Kept sort (evalFollowing c level es) (evalFollowing c' level es)
  | [], _ => .refl _
  | (_, e) :: es, h => by
    obtain ⟨he, hes⟩ := List.forall_mem_append.mp h
    have hchecked : Kept sort ((e.eval c).bind (Operation.checkOperand level))
        ((e.eval c').bind (Operation.checkOperand level)) := (eval_kept hcalls e he).bind fun _ => .refl _
    exact hchecked.bind fun _ => (evalFollowing_kept hcalls es hes).map _
  termination_by structural es => es

end

/-- Evaluation depends on no names but those that the tree reads, and more names change no value: scopes that agree on
the names that the tree reads give the same outcome, and what has a value in a scope has this value in every larger
one. -/
theorem eval_of_reads (functions : Registry) (e : Expr α) :
    (∀ s t : Scope, (∀ name ∈ e.reads, s name = t name) → e.eval ⟨s, functions⟩ = e.eval ⟨t, functions⟩) ∧
    ∀ s t : Scope, t.Extends s → ∀ v, e.eval ⟨s, functions⟩ = .ok v → e.eval ⟨t, functions⟩ = .ok v := by
  constructor
  · intro s t h
    have hnames (name : String) (hname : name ∈ e.reads) :
        Context.resolve ⟨s, functions⟩ name = Context.resolve ⟨t, functions⟩ name := by
      simp only [Context.resolve, h name hname]
    have hkept : Kept (fun _ => False) (e.eval ⟨s, functions⟩) (e.eval ⟨t, functions⟩) :=
      eval_kept (.refl functions) e fun name hname => .inl (hnames name hname)
    exact hkept.eq
  · intro s t h v hv
    have hnames (name : String) : Kept (fun e => ∃ name, e = .unknownIdentifier name)
        (Context.resolve ⟨s, functions⟩ name) (Context.resolve ⟨t, functions⟩ name) :=
      (Context.resolve_kept h name).mono fun e he => ⟨name, he⟩
    have hkept : Kept _ (e.eval ⟨s, functions⟩) (e.eval ⟨t, functions⟩) :=
      eval_kept (.refl functions) e fun name _ => hnames name
    exact hkept.eq_ok hv

/-- The function of a name that gives its argument. -/
private def identity (name : String) : Function where
  name := name
  overloads := [{ id := name, arity := 1, receiver := none, call := fun args => .ok (args.headD .null) }]

/-- The tree of `b ? f(g(x)) : f`, in which `g` is only called, and `f` is read too. -/
private def choice : Expr Unit :=
  ternary () (name () "b") (call () (name () "f") [call () (name () "g") [name () "x"]]) (name () "f")

/-- A value of the name `g` does not matter, and a value of `f` does not change what the call of `f` gives. -/
theorem eval_choice :
    let functions := Registry.ofList [identity "f", identity "g"]
    let b : Bindings := .ofList [("b", .bool true), ("x", .int 7)]
    (∀ name ∈ choice.reads, b.scope name = (b.insert "g" .null).scope name) ∧
    choice.eval ⟨b.scope, functions⟩ = choice.eval ⟨(b.insert "g" .null).scope, functions⟩ ∧
    (b.insert "f" .null).scope.Extends b.scope ∧ choice.eval ⟨b.scope, functions⟩ = .ok (.int 7) ∧
    choice.eval ⟨(b.insert "f" .null).scope, functions⟩ = .ok (.int 7) := by
  intro functions b
  have hagree : ∀ name ∈ choice.reads, b.scope name = (b.insert "g" .null).scope name := by
    intro name hname
    have hne : name ≠ "g" := by
      rintro rfl
      revert hname
      decide
    rw [Bindings.scope, Bindings.scope, Bindings.get?_insert, if_neg hne]
  have hextends : (b.insert "f" .null).scope.Extends b.scope := Bindings.extends_insert (by rfl) _
  have hvalue : choice.eval ⟨b.scope, functions⟩ = .ok (.int 7) := by rfl
  exact ⟨hagree, (eval_of_reads functions choice).1 _ _ hagree, hextends, hvalue,
    (eval_of_reads functions choice).2 _ _ hextends _ hvalue⟩

end Expr

end ExprLang
