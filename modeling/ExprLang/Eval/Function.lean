import ExprLang.Eval.Error
import ExprLang.Unicode.Property

/-!
# Functions

A function is a name with overloads. A call goes to the first overload of the name that takes the number of arguments
and, where it asks for a kind of first argument, gets that kind. A registry holds the functions by name, each name
once; registering a name again adds the new overloads behind those that are there.
-/

namespace ExprLang

/-- One way to call a function. -/
structure Overload where
  id : String
  /-- how many arguments it takes -/
  arity : Nat
  /-- the kind that the first argument must have, if one is asked for -/
  receiver : Option Kind
  /-- what a call gives; it may be asked with arguments that the overload does not accept -/
  call : List Value → Outcome Value

namespace Overload

/-- Whether the overload takes these arguments. -/
def accepts (o : Overload) (args : List Value) : Bool :=
  args.length = o.arity &&
    match o.receiver, args with
    | none, _ => true
    | some kind, v :: _ => v.kind = kind
    | some _, [] => false

/-- The label of a kind in descriptions. -/
def kindLabel : Kind → String
  | .null => "Null"
  | .bool => "Bool"
  | .int => "Int"
  | .uint => "UInt"
  | .float => "Float"
  | .string => "String"
  | .bytes => "Bytes"
  | .list => "List"
  | .map => "Map"

/-- How a character of an id is written in descriptions. -/
def describeChar (c : Char) : List Char :=
  if c = '"' ∨ c = '\\' then ['\\', c]
  else if c = '\n' then ['\\', 'n']
  else if c = '\r' then ['\\', 'r']
  else if c = '\t' then ['\\', 't']
  else if c = '\x00' then ['\\', '0']
  else if Unicode.invisible.has c then ['\\', 'u', '{'] ++ Digits.write 16 c.toNat 1 ++ ['}']
  else [c]

/-- The overload in one line, without what it does. -/
def describe (o : Overload) : String :=
  "Overload \x7b id: \"" ++ String.ofList (o.id.toList.flatMap describeChar) ++ "\", arity: " ++
    String.ofList (Digits.write 10 o.arity 1) ++ ", receiver: " ++
    (match o.receiver with
      | some kind => "Some(" ++ kindLabel kind ++ ")"
      | none => "None") ++ " \x7d"

end Overload

/-- A function with its overloads in the order in which they are tried. -/
structure Function where
  name : String
  overloads : List Overload

namespace Function

def find? (f : Function) (id : String) : Option Overload := f.overloads.find? fun o => o.id = id

/-- The overloads with the given number of arguments. -/
def withArity (f : Function) (arity : Nat) : List Overload := f.overloads.filter fun o => o.arity = arity

end Function

/-- Functions by name. -/
structure Registry where
  functions : List Function
  nodup : (functions.map Function.name).Nodup

namespace Registry

def empty : Registry := ⟨[], List.nodup_nil⟩

def size (r : Registry) : Nat := r.functions.length

/-- The function of a name. -/
def get? (r : Registry) (name : String) : Option Function := r.functions.find? fun f => f.name = name

def contains (r : Registry) (name : String) : Bool := r.functions.any fun f => f.name = name

/-- The functions with the overloads of `f` behind those of the same name, or with `f` at the end. -/
def addTo (f : Function) : List Function → List Function
  | [] => [f]
  | g :: gs => if g.name = f.name then { g with overloads := g.overloads ++ f.overloads } :: gs else g :: addTo f gs

theorem names_addTo (f : Function) (gs : List Function) :
    (addTo f gs).map Function.name =
      if f.name ∈ gs.map Function.name then gs.map Function.name else gs.map Function.name ++ [f.name] := by
  induction gs with
  | nil => simp [addTo]
  | cons g gs ih =>
    by_cases h : g.name = f.name
    · simp [addTo, h]
    · simp only [addTo, h, ↓reduceIte, List.map_cons, ih, List.mem_cons, Ne.symm h, false_or]
      split <;> simp

/-- Registers a function. -/
def register (r : Registry) (f : Function) : Registry :=
  ⟨addTo f r.functions, by
    rw [names_addTo]
    split
    · exact r.nodup
    · rename_i h
      exact List.nodup_append.mpr ⟨r.nodup, List.pairwise_singleton .., by
        intro a ha b hb
        rw [List.mem_singleton.mp hb]
        exact fun e => h (e ▸ ha)⟩⟩

/-- Registers all functions of another registry. -/
def merge (r s : Registry) : Registry := s.functions.foldl register r

def ofList (fs : List Function) : Registry := fs.foldl register empty

/-- The overloads of a name with the given number of arguments, where there are any. -/
def lookup? (r : Registry) (name : String) (arity : Nat) : Option (List Overload) :=
  (r.get? name).bind fun f =>
    match f.withArity arity with
    | [] => none
    | o :: os => some (o :: os)

/-- The overload of a name that has the given id. -/
def findOverload? (r : Registry) (name id : String) : Option Overload := (r.get? name).bind fun f => f.find? id

/-- Calls the first overload of a name that accepts the arguments. -/
def dispatch (r : Registry) (name : String) (args : List Value) : Outcome Value :=
  match r.lookup? name args.length with
  | none => .error (.unknownFunction name args.length)
  | some overloads =>
    match overloads.find? fun o => o.accepts args with
    | none => .error (.noMatchingOverload name (args.map Value.kind))
    | some o => o.call args

end Registry

end ExprLang
