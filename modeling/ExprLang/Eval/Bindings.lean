import ExprLang.Value.Conversion

/-!
# Bindings of variables

Evaluation only asks which value a name has, if any; `Scope` is that question. `Bindings` is a finite scope that can
be changed: a name is bound at most once, and binding it again replaces its value.
-/

namespace ExprLang

/-- What each name stands for. -/
abbrev Scope := String → Option Value

/-- The scope without names. -/
def Scope.empty : Scope := fun _ => none

/-- Finitely many names with their values. -/
structure Bindings where
  entries : List (String × Value)
  nodup : (entries.map Prod.fst).Nodup

namespace Bindings

def empty : Bindings := ⟨[], List.nodup_nil⟩

/-- The bindings without a name. -/
def erase (b : Bindings) (name : String) : Bindings :=
  ⟨b.entries.filter fun e => e.1 ≠ name, b.nodup.sublist (List.filter_sublist.map _)⟩

/-- The bindings with a name bound to a value. -/
def insert (b : Bindings) (name : String) (v : Value) : Bindings :=
  ⟨(name, v) :: (b.erase name).entries, by
    refine List.nodup_cons.mpr ⟨fun h => ?_, (b.erase name).nodup⟩
    obtain ⟨e, he, rfl⟩ := List.mem_map.mp h
    simp [erase] at he⟩

/-- The bindings of a list; of those with one name the last counts. -/
def ofList (es : List (String × Value)) : Bindings := es.foldl (fun b e => b.insert e.1 e.2) empty

def size (b : Bindings) : Nat := b.entries.length

/-- What a name stands for. -/
def get? (b : Bindings) (name : String) : Option Value := (b.entries.find? fun e => e.1 = name).map Prod.snd

def contains (b : Bindings) (name : String) : Bool := b.entries.any fun e => e.1 = name

/-- The bindings as a scope. -/
def scope (b : Bindings) : Scope := b.get?

end Bindings

end ExprLang
