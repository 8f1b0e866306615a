import ExprLang.Proofs.Eval.Contexts

/-!
# Registering functions

A registry grows by single functions and by whole registries. Either way new overloads of a name stand behind those
that it has (`overloads_prefix_after`), and a call goes to the first overload that accepts its arguments
(`dispatch_eq`), so a call that went to an overload still goes to it. Only calls for which there was no overload can
change, and with them only outcomes that are such errors (`eval_after_kept`); all values stay (`eval_after_changes`).
-/

namespace ExprLang

/-- Whether an error says that there is no overload for a call. -/
def EvalError.isRefusal : EvalError → Bool
  | unknownFunction _ _ | noMatchingOverload _ _ => true
  | _ => false

namespace Registry

variable {r s : Registry} {name : String} {args : List Value}

/-! ### Overloads of a name -/

/-- The overloads of a name in the order in which they are tried. -/
def overloads (r : Registry) (name : String) : List Overload := ((r.get? name).map Function.overloads).getD []

private theorem find?_addTo (f : Function) (name : String) (gs : List Function) :
    (addTo f gs).find? (fun g => g.name = name) =
      if f.name = name then
        some (((gs.find? fun g => g.name = name).map
          fun g => { g with overloads := g.overloads ++ f.overloads }).getD f)
      else gs.find? fun g => g.name = name := by
  induction gs with
  | nil => by_cases h : f.name = name <;> simp [addTo, h]
  | cons g gs ih =>
    by_cases hg : g.name = f.name
    · by_cases h : f.name = name <;> simp [addTo, hg, h]
    · by_cases h : g.name = name
      · have hf : f.name ≠ name := fun hf => hg (h.trans hf.symm)
        rw [addTo, if_neg hg, List.find?_cons]
        simp [h, hf]
      · simp only [addTo, hg, ↓reduceIte, List.find?_cons, h, decide_false, ih]

/-- Registering a function puts its overloads behind those that its name has. -/
theorem overloads_register (r : Registry) (f : Function) (name : String) :
    (r.register f).overloads name = r.overloads name ++ if f.name = name then f.overloads else [] := by
  have hget : (r.register f).get? name = if f.name = name then
      some (((r.get? name).map fun g => { g with overloads := g.overloads ++ f.overloads }).getD f)
      else r.get? name := find?_addTo f name r.functions
  rw [overloads, hget]
  by_cases h : f.name = name
  · cases hr : r.get? name <;> simp [overloads, h, hr]
  · simp [overloads, h]

/-! ### Calls -/

/-- An overload only accepts as many arguments as it takes. -/
theorem arity_of_accepts {o : Overload} (h : o.accepts args = true) : o.arity = args.length := by
  simp only [Overload.accepts, Bool.and_eq_true, decide_eq_true_eq] at h
  exact h.1.symm

/-- So it makes no difference to leave out those that take another number. -/
private theorem find?_filter_arity (os : List Overload) (args : List Value) :
    (os.filter fun o => o.arity = args.length).find? (fun o => o.accepts args) =
      os.find? fun o => o.accepts args := by
  rw [List.find?_filter]
  refine congrArg (List.find? · os) (funext fun o => ?_)
  cases h : o.accepts args with
  | false => simp
  | true => simp [arity_of_accepts h]

private theorem lookup?_eq (r : Registry) (name : String) (arity : Nat) : r.lookup? name arity =
    match (r.overloads name).filter fun o => o.arity = arity with
    | [] => none
    | o :: os => some (o :: os) := by
  unfold lookup? overloads
  cases r.get? name <;> rfl

/-- The error of a call for which there is no overload. -/
def refusal (r : Registry) (name : String) (args : List Value) : EvalError :=
  if (r.overloads name).any fun o => o.arity = args.length then .noMatchingOverload name (args.map Value.kind)
  else .unknownFunction name args.length

/-- A call goes to the first overload of the name that accepts the arguments. -/
theorem dispatch_eq (r : Registry) (name : String) (args : List Value) :
    r.dispatch name args =
      match (r.overloads name).find? fun o => o.accepts args with
      | some o => o.call args
      | none => .error (r.refusal name args) := by
  have hfind := find?_filter_arity (r.overloads name) args
  rw [dispatch, lookup?_eq]
  cases hos : (r.overloads name).filter fun o => o.arity = args.length with
  | nil =>
    have hany : ((r.overloads name).any fun o => o.arity = args.length) = false := by
      simpa using hos
    rw [hos] at hfind
    rw [← hfind, refusal, hany]
    rfl
  | cons o os =>
    have hany : ((r.overloads name).any fun o => o.arity = args.length) = true := by
      have hmem : o ∈ (r.overloads name).filter fun o => o.arity = args.length := by simp [hos]
      exact List.any_eq_true.mpr ⟨o, List.mem_filter.mp hmem⟩
    rw [hos] at hfind
    dsimp only
    rw [hfind, refusal, hany]
    cases (r.overloads name).find? fun o => o.accepts args <;> rfl

theorem isRefusal_refusal (r : Registry) (name : String) (args : List Value) :
    (r.refusal name args).isRefusal = true := by
  unfold refusal
  split <;> rfl

/-- Overloads that stand behind those of a name do not change what its calls give, unless there was no overload. -/
theorem dispatch_kept (h : r.overloads name <+: s.overloads name) (args : List Value) :
    Kept (fun e => e.isRefusal = true) (r.dispatch name args) (s.dispatch name args) := by
  obtain ⟨more, hmore⟩ := h
  rw [dispatch_eq, dispatch_eq, ← hmore, List.find?_append]
  cases (r.overloads name).find? fun o => o.accepts args with
  | some o => exact .refl _
  | none => exact .inr ⟨_, isRefusal_refusal r name args, rfl⟩

/-! ### Changes -/

/-- A way in which a registry grows. -/
inductive Change where
  | register (f : Function)
  | merge (other : Registry)

/-- The registry after one change. -/
def apply (r : Registry) : Change → Registry
  | .register f => r.register f
  | .merge other => r.merge other

/-- The registry after some changes, one after the other. -/
def after (r : Registry) (changes : List Change) : Registry := changes.foldl apply r

private theorem overloads_prefix_foldl (fs : List Function) (r : Registry) (name : String) :
    r.overloads name <+: (fs.foldl register r).overloads name := by
  induction fs generalizing r with
  | nil => exact List.prefix_rfl
  | cons f fs ih =>
    have hregister : r.overloads name <+: (r.register f).overloads name := by
      rw [overloads_register]
      exact List.prefix_append _ _
    exact hregister.trans (ih (r.register f))

/-- A change leaves the overloads of a name in front. -/
theorem overloads_prefix_apply (r : Registry) (change : Change) (name : String) :
    r.overloads name <+: (r.apply change).overloads name := by
  cases change with
  | register f => exact overloads_prefix_foldl [f] r name
  | merge other => exact overloads_prefix_foldl other.functions r name

theorem overloads_prefix_after (r : Registry) (changes : List Change) (name : String) :
    r.overloads name <+: (r.after changes).overloads name := by
  induction changes generalizing r with
  | nil => exact List.prefix_rfl
  | cons change changes ih => exact (overloads_prefix_apply r change name).trans (ih (r.apply change))

theorem keeps_after (r : Registry) (changes : List Change) :
    r.Keeps (fun e => e.isRefusal = true) (r.after changes) :=
  fun name args => dispatch_kept (overloads_prefix_after r changes name) args

end Registry

namespace Expr

variable {α : Type}

/-- Changes of the registry change no outcome but errors for want of an overload. -/
theorem eval_after_kept (scope : Scope) (r : Registry) (changes : List Registry.Change) (e : Expr α) :
    Kept (fun e => e.isRefusal = true) (e.eval ⟨scope, r⟩) (e.eval ⟨scope, r.after changes⟩) := by
  refine eval_kept ?_ e fun _ _ => .refl _
  exact r.keeps_after changes

/-- A value that a tree has stays the same however functions are registered and registries merged. -/
theorem eval_after_changes (scope : Scope) (r : Registry) (changes : List Registry.Change) (e : Expr α) (v : Value)
    (h : e.eval ⟨scope, r⟩ = .ok v) : e.eval ⟨scope, r.after changes⟩ = .ok v :=
  (eval_after_kept scope r changes e).eq_ok h

/-- An overload of `f` that gives its own id. -/
private def labelled (id : String) (receiver : Option Kind) : Function where
  name := "f"
  overloads := [{ id, arity := 1, receiver, call := fun _ => .ok (.string id) }]

/-- The call `f(1)` goes to the overload for integers that was there first, also when one for all kinds is registered
and one more for integers is merged. -/
theorem eval_after_overloads :
    let r := Registry.ofList [labelled "first" (some .int)]
    let changes := [.register (labelled "second" none), .merge (.ofList [labelled "third" (some .int)])]
    let e : Expr Unit := call () (name () "f") [literal () (.int 1)]
    e.eval ⟨.empty, r⟩ = .ok (.string "first") ∧ e.eval ⟨.empty, r.after changes⟩ = .ok (.string "first") := by
  intro r changes e
  have h : e.eval ⟨.empty, r⟩ = .ok (.string "first") := by rfl
  exact ⟨h, eval_after_changes .empty r changes e _ h⟩

end Expr

end ExprLang
