import ExprLang.Number.Binary64
import ExprLang.Token.Basic
import ExprLang.Value.Kind
import ExprLang.Value.KeyMap

/-!
# Values

The values of expressions. The three kinds of numbers are told apart, also where they stand for the same number.
Booleans, integers and texts are map keys; `address?` is the key under which a value is looked up in a map by an
expression, which a float with an integer's value has as well.
-/

namespace ExprLang

/-- A value. -/
inductive Value where
  | null
  | bool (b : Bool)
  | int (n : Int64)
  | uint (n : UInt64)
  | float (f : Float)
  | string (s : String)
  | bytes (bs : List UInt8)
  | list (items : List Value)
  | map (m : KeyMap Value)

instance : Inhabited Value := ⟨.null⟩

/-- The value of a literal. -/
def Literal.toValue : Literal → Value
  | null => .null
  | bool b => .bool b
  | int n => .int n
  | uint n => .uint n
  | float f => .float f
  | string s => .string s
  | bytes bs => .bytes bs

/-- The key as a value. -/
def Key.toValue : Key → Value
  | bool b => .bool b
  | int n => .int n
  | uint n => .uint n
  | string s => .string s

namespace Value

/-- The map with the entries of a list; of those with one key the last counts. -/
def ofEntries (es : List (Key × Value)) : Value := map (KeyMap.ofList es)

def kind : Value → Kind
  | null => .null
  | bool _ => .bool
  | int _ => .int
  | uint _ => .uint
  | float _ => .float
  | string _ => .string
  | bytes _ => .bytes
  | list _ => .list
  | map _ => .map

/-- The key that a value is. -/
def key? : Value → Option Key
  | bool b => some (.bool b)
  | int n => some (.int n)
  | uint n => some (.uint n)
  | string s => some (.string s)
  | _ => none

/-- The key by which a value is looked up in a map. A float in the range of signed integers has one when nothing is
left of it behind its whole part. -/
def address? : Value → Option Key
  | float f =>
    if f - Binary64.truncate f == 0 ∧ -9223372036854775808 ≤ f ∧ f < 9223372036854775808 then
      some (.int (Binary64.toInt64 f))
    else none
  | v => v.key?

/-- The value in `m` that the key `k` finds: numbers are found under either kind of integer. -/
def find? (m : KeyMap Value) (k : Value) : Option Value := k.address?.bind m.find?

/-! ### Payloads -/

def isNull : Value → Bool
  | null => true
  | _ => false

def bool? : Value → Option Bool
  | bool b => some b
  | _ => none

def int? : Value → Option Int64
  | int n => some n
  | _ => none

def uint? : Value → Option UInt64
  | uint n => some n
  | _ => none

def float? : Value → Option Float
  | float f => some f
  | _ => none

def string? : Value → Option String
  | string s => some s
  | _ => none

def bytes? : Value → Option (List UInt8)
  | bytes bs => some bs
  | _ => none

def list? : Value → Option (List Value)
  | list items => some items
  | _ => none

def map? : Value → Option (KeyMap Value)
  | map m => some m
  | _ => none

end Value

end ExprLang
