/-!
# Kinds

The nine kinds of values, with the names that error messages use.
-/

namespace ExprLang

/-- The kind of a value. -/
inductive Kind where
  | null | bool | int | uint | float | string | bytes | list | map
  deriving DecidableEq, Repr

namespace Kind

def name : Kind → String
  | null => "null"
  | bool => "bool"
  | int => "int"
  | uint => "uint"
  | float => "float"
  | string => "string"
  | bytes => "bytes"
  | list => "list"
  | map => "map"

/-- Whether values of the kind are numbers. -/
def isNumeric : Kind → Bool
  | int | uint | float => true
  | _ => false

/-- All kinds. -/
def all : List Kind := [null, bool, int, uint, float, string, bytes, list, map]

end Kind

end ExprLang
