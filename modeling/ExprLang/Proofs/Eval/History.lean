import ExprLang.Library.Standard
import ExprLang.Proofs.Eval.Registration

/-!
# What was registered

A registry is changed by registering functions and by merging other registries, whose functions come in no particular
order (`Leads`). Whatever the order was, the overloads of a name are those that it had and then those of each change, in
the order of the changes (`overloads_of_leads`), for a registry has each name once. A call goes to the first of them
that fits the arguments, and fails for want of one exactly where none fits (`dispatch_eq_error_iff`).
-/

namespace ExprLang

/-! ### The first overload that fits -/

namespace Overload

variable {o : Overload} {os : List Overload} {args : List Value}

/-- The overload takes that many arguments, and the first of them is of the kind that it asks for, if it asks for
one. -/
def Fits (o : Overload) (args : List Value) : Prop :=
  o.arity = args.length ∧ ∀ kind ∈ o.receiver, ∃ v ∈ args.head?, v.kind = kind

/-- The overload is the first one of the list that fits the arguments. -/
def FirstFit (os : List Overload) (args : List Value) (o : Overload) : Prop :=
  ∃ front behind, os = front ++ o :: behind ∧ o.Fits args ∧ ∀ p ∈ front, ¬ p.Fits args

theorem accepts_iff : o.accepts args = true ↔ o.Fits args := by
  obtain ⟨id, arity, receiver, call⟩ := o
  have hlength : args.length = arity ↔ arity = args.length := eq_comm
  simp only [accepts, Fits, Bool.and_eq_true, decide_eq_true_eq, hlength]
  refine and_congr_right fun _ => ?_
  cases receiver with
  | none => simp
  | some kind => cases args <;> simp

theorem find?_eq_some_iff_firstFit : (os.find? fun o => o.accepts args) = some o ↔ FirstFit os args o := by
  rw [List.find?_eq_some_iff_append, FirstFit]
  constructor
  · rintro ⟨hfits, front, behind, hos, hfront⟩
    refine ⟨front, behind, hos, accepts_iff.mp hfits, fun p hp hfit => ?_⟩
    have := hfront p hp
    rw [accepts_iff.mpr hfit] at this
    cases this
  · rintro ⟨front, behind, hos, hfits, hfront⟩
    refine ⟨accepts_iff.mpr hfits, front, behind, hos, fun p hp => ?_⟩
    rw [Bool.not_eq_true', Bool.eq_false_iff]
    exact fun hfit => hfront p hp (accepts_iff.mp hfit)

theorem find?_eq_none_iff_fits : (os.find? fun o => o.accepts args) = none ↔ ∀ o ∈ os, ¬ o.Fits args := by
  simp [accepts_iff]

end Overload

namespace Registry

/-! ### Names -/

/-- A name is that of one function at most. -/
theorem filter_name (r : Registry) (name : String) :
    (r.functions.filter fun f => f.name = name) = (r.get? name).toList := by
  obtain ⟨fs, hnodup⟩ := r
  unfold get?
  dsimp only
  induction fs with
  | nil => rfl
  | cons f fs ih =>
    rw [List.map_cons, List.nodup_cons] at hnodup
    by_cases hf : f.name = name
    · have hothers : (fs.filter fun f => f.name = name) = [] := by
        simp only [List.filter_eq_nil_iff, decide_eq_true_eq]
        intro g hg hname
        refine hnodup.1 (List.mem_map.mpr ⟨g, hg, ?_⟩)
        rw [hname, hf]
      simp [hf, hothers]
    · simpa [hf] using ih hnodup.2

/-- A function is found by its name. -/
theorem get?_of_mem {r : Registry} {f : Function} (h : f ∈ r.functions) : r.get? f.name = some f := by
  have hmem : f ∈ r.functions.filter fun g => g.name = f.name := by simp [h]
  rw [filter_name] at hmem
  exact Option.mem_toList.mp hmem

theorem name_of_get? {r : Registry} {name : String} {f : Function} (h : r.get? name = some f) : f.name = name := by
  simpa using List.find?_some h

/-! ### Histories -/

/-- One change of a registry. A merge takes the functions of the other registry one by one, in any order. -/
inductive Step : Registry → Change → Registry → Prop
  | register (r : Registry) (f : Function) : Step r (.register f) (r.register f)
  | merge (r other : Registry) (fs : List Function) (h : fs.Perm other.functions) :
      Step r (.merge other) (fs.foldl Registry.register r)

/-- The changes, one after the other, lead from a registry to another one. -/
inductive Leads : Registry → List Change → Registry → Prop
  | nil (r : Registry) : Leads r [] r
  | cons {r s t : Registry} {change : Change} {changes : List Change} (h : Step r change s)
      (hrest : Leads s changes t) : Leads r (change :: changes) t

/-- The overloads that a change has for a name. -/
def Change.overloads (name : String) : Change → List Overload
  | .register f => if f.name = name then f.overloads else []
  | .merge other => other.overloads name

variable {r s : Registry} {change : Change} {changes : List Change}

private theorem overloads_foldl (fs : List Function) (r : Registry) (name : String) :
    (fs.foldl register r).overloads name =
      r.overloads name ++ (fs.filter fun f => f.name = name).flatMap Function.overloads := by
  induction fs generalizing r with
  | nil => simp
  | cons f fs ih =>
    rw [List.foldl_cons, ih, overloads_register]
    by_cases hf : f.name = name <;> simp [hf]

/-- The order in which a merge takes functions does not matter, since only one of them has the name. -/
private theorem flatMap_overloads_of_perm {fs : List Function} (h : fs.Perm s.functions) (name : String) :
    (fs.filter fun f => f.name = name).flatMap Function.overloads = s.overloads name := by
  have hfilter := h.filter fun f => f.name = name
  rw [filter_name] at hfilter
  rw [overloads]
  cases hget : s.get? name with
  | none =>
    rw [hget] at hfilter
    rw [List.Perm.eq_nil hfilter]
    rfl
  | some f =>
    rw [hget] at hfilter
    rw [List.Perm.eq_singleton hfilter]
    simp

/-- A change puts its overloads of a name behind those that are there. -/
theorem overloads_of_step (h : Step r change s) (name : String) :
    s.overloads name = r.overloads name ++ change.overloads name := by
  cases h with
  | register f => exact overloads_register r f name
  | merge other fs hperm => rw [overloads_foldl, flatMap_overloads_of_perm hperm, Change.overloads]

/-- The overloads of a name are those of all changes, in their order. -/
theorem overloads_of_leads (h : Leads r changes s) (name : String) :
    s.overloads name = r.overloads name ++ changes.flatMap (Change.overloads name) := by
  induction h with
  | nil r => simp
  | cons hstep _ ih => rw [ih, overloads_of_step hstep, List.flatMap_cons, List.append_assoc]

/-- Changes lead to what they make of a registry when functions come in the order in which they are listed. -/
theorem leads_after (r : Registry) (changes : List Change) : Leads r changes (r.after changes) := by
  induction changes generalizing r with
  | nil => exact .nil r
  | cons change changes ih =>
    have hstep : Step r change (r.apply change) := by
      cases change with
      | register f => exact .register r f
      | merge other => exact .merge r other other.functions (List.Perm.refl _)
    exact .cons hstep (ih _)

/-! ### Calls -/

section Calls

open Overload (FirstFit)

variable {name : String} {args : List Value} {e : EvalError}

theorem dispatch_of_firstFit {o : Overload} (h : FirstFit (r.overloads name) args o) :
    r.dispatch name args = o.call args := by
  rw [dispatch_eq, Overload.find?_eq_some_iff_firstFit.mpr h]

theorem dispatch_of_forall_not_fits (h : ∀ o ∈ r.overloads name, ¬ o.Fits args) :
    r.dispatch name args = .error (r.refusal name args) := by
  rw [dispatch_eq, Overload.find?_eq_none_iff_fits.mpr h]

/-- An error of a call says that no overload fits, or is that of the first overload that does. -/
theorem dispatch_eq_error_iff : r.dispatch name args = .error e ↔
    ((∀ o ∈ r.overloads name, ¬ o.Fits args) ∧ r.refusal name args = e) ∨
      ∃ o, FirstFit (r.overloads name) args o ∧ o.call args = .error e := by
  constructor
  · intro h
    cases hfind : (r.overloads name).find? fun o => o.accepts args with
    | none =>
      have hnone := Overload.find?_eq_none_iff_fits.mp hfind
      rw [dispatch_of_forall_not_fits hnone] at h
      exact .inl ⟨hnone, Except.error.inj h⟩
    | some o =>
      have hfirst := Overload.find?_eq_some_iff_firstFit.mp hfind
      rw [dispatch_of_firstFit hfirst] at h
      exact .inr ⟨o, hfirst, h⟩
  · rintro (⟨hnone, rfl⟩ | ⟨o, hfirst, h⟩)
    · exact dispatch_of_forall_not_fits hnone
    · rw [dispatch_of_firstFit hfirst, h]

/-- No overload fits because none takes so many arguments. -/
private theorem refusal_eq_unknown_iff :
    ((∀ o ∈ r.overloads name, ¬ o.Fits args) ∧ r.refusal name args = .unknownFunction name args.length) ↔
      ∀ o ∈ r.overloads name, o.arity ≠ args.length := by
  constructor
  · rintro ⟨-, h⟩ o ho harity
    have hany : ((r.overloads name).any fun o => o.arity = args.length) = true :=
      List.any_eq_true.mpr ⟨o, ho, by simpa using harity⟩
    rw [refusal, if_pos hany] at h
    cases h
  · intro h
    have hany : ¬ ((r.overloads name).any fun o => o.arity = args.length) = true := by simpa using h
    exact ⟨fun o ho hfits => h o ho hfits.1, if_neg hany⟩

/-- No overload fits though some take so many arguments. -/
private theorem refusal_eq_noMatching_iff :
    ((∀ o ∈ r.overloads name, ¬ o.Fits args) ∧
        r.refusal name args = .noMatchingOverload name (args.map Value.kind)) ↔
      (∃ o ∈ r.overloads name, o.arity = args.length) ∧ ∀ o ∈ r.overloads name, ¬ o.Fits args := by
  rw [and_comm]
  refine and_congr_left fun _ => ?_
  have hany : ((r.overloads name).any fun o => o.arity = args.length) = true ↔
      ∃ o ∈ r.overloads name, o.arity = args.length := by simp
  rw [← hany, refusal]
  split <;> simp [*]

end Calls

/-- What a registry knows that was reached by any changes from another one, such as the empty one or that of the
standard functions. Each function is found by its own name. The overloads of a name are those that it had and those of
all changes, in their order, where a merge has those of the other registry. A call goes to the first overload that takes
so many arguments and asks for no other kind of first argument. It says that the function is unknown exactly when no
overload takes so many arguments, and that none matches exactly when some do but none fits, unless the overload that was
called says so itself. -/
theorem dispatch_of_leads (base : Registry) (changes : List Change) (r : Registry) (h : Leads base changes r)
    (name : String) (args : List Value) :
    let overloads := base.overloads name ++ changes.flatMap (Change.overloads name)
    (∀ f ∈ r.functions, r.get? f.name = some f) ∧
    (∀ f, r.get? name = some f → f.name = name) ∧
    r.overloads name = overloads ∧
    (∀ o, Overload.FirstFit overloads args o → r.dispatch name args = o.call args) ∧
    (r.dispatch name args = .error (.unknownFunction name args.length) ↔
      (∀ o ∈ overloads, o.arity ≠ args.length) ∨
        ∃ o, Overload.FirstFit overloads args o ∧ o.call args = .error (.unknownFunction name args.length)) ∧
    (r.dispatch name args = .error (.noMatchingOverload name (args.map Value.kind)) ↔
      ((∃ o ∈ overloads, o.arity = args.length) ∧ ∀ o ∈ overloads, ¬ o.Fits args) ∨
        ∃ o, Overload.FirstFit overloads args o ∧
          o.call args = .error (.noMatchingOverload name (args.map Value.kind))) := by
  intro overloads
  have hoverloads : r.overloads name = overloads := overloads_of_leads h name
  rw [← hoverloads]
  refine ⟨fun f hf => get?_of_mem hf, fun f hf => name_of_get? hf, rfl, fun o ho => dispatch_of_firstFit ho, ?_, ?_⟩
  · rw [dispatch_eq_error_iff, refusal_eq_unknown_iff]
  · rw [dispatch_eq_error_iff, refusal_eq_noMatching_iff]

/-- An overload of one argument that gives its own id. -/
private def tagged (id : String) (receiver : Option Kind) : Overload where
  id := id
  arity := 1
  receiver := receiver
  call _ := .ok (.string id)

/-- Of the overloads of `size` for lists the standard one stays the first. The one for `null` is found that was merged
from another registry, whose other function was taken before. Without arguments the function is unknown, and for a
boolean it has no overload. -/
theorem dispatch_of_size :
    let size : Function := ⟨"size", [tagged "null" (some .null), tagged "list" (some .list)]⟩
    let other : Registry := .ofList [size, ⟨"f", []⟩]
    let r := [⟨"f", []⟩, size].foldl register (Library.standard.register ⟨"size", []⟩)
    Leads Library.standard [.register ⟨"size", []⟩, .merge other] r ∧
    r.dispatch "size" [.list [.null]] = .ok (.int 1) ∧ r.dispatch "size" [.null] = .ok (.string "null") ∧
    r.dispatch "size" [] = .error (.unknownFunction "size" 0) ∧
    r.dispatch "size" [.bool true] = .error (.noMatchingOverload "size" [.bool]) := by
  intro size other r
  have hleads : Leads Library.standard [.register ⟨"size", []⟩, .merge other] r :=
    .cons (.register _ _) (.cons (.merge _ other _ (List.Perm.swap ..)) (.nil _))
  have hcall (args : List Value) := dispatch_of_leads Library.standard _ r hleads "size" args
  have harity (o : Overload) (ho : o ∈ Library.standard.overloads "size" ++ size.overloads) : o.arity = 1 := by
    have hall : ((Library.standard.overloads "size" ++ size.overloads).all fun o => o.arity = 1) = true := rfl
    exact of_decide_eq_true (List.all_eq_true.mp hall o ho)
  refine ⟨hleads, ?_, ?_, ?_, ?_⟩
  · obtain ⟨-, -, -, hfirst, -⟩ := hcall [.list [.null]]
    rw [hfirst _ (Overload.find?_eq_some_iff_firstFit.mp rfl)]
    rfl
  · obtain ⟨-, -, -, hfirst, -⟩ := hcall [.null]
    rw [hfirst _ (Overload.find?_eq_some_iff_firstFit.mp rfl)]
    rfl
  · obtain ⟨-, -, -, -, hunknown, -⟩ := hcall []
    refine hunknown.mpr (.inl fun o ho => ?_)
    rw [harity o ho]
    decide
  · obtain ⟨-, -, -, -, -, hmismatch⟩ := hcall [.bool true]
    refine hmismatch.mpr (.inl ⟨⟨tagged "list" (some .list), ?_, rfl⟩, Overload.find?_eq_none_iff_fits.mp rfl⟩)
    exact List.mem_append_right _ (List.mem_cons_of_mem _ List.mem_cons_self)

end Registry
end ExprLang
