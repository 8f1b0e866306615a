import ExprLang.Library.Conversion
import ExprLang.Value.Comparison

/-!
# Sizes and parts

The functions `size`, `startsWith`, `endsWith`, `contains` and `matches`. The size of a text counts its characters,
that of a byte string its bytes. What a pattern means is left to a `Matcher`.
-/

namespace ExprLang.Library

/-- A size as a value. -/
def length (n : Nat) : Outcome Value := (Arithmetic.toInt "size" n).map .int

def size : Function where
  name := "size"
  overloads :=
    [{ id := "size_string", arity := 1, receiver := some .string,
       call := fun
        | .string s :: _ => length s.length
        | args => .error (mismatch "size" args) },
     { id := "size_bytes", arity := 1, receiver := some .bytes,
       call := fun
        | [.bytes bs] => length bs.length
        | args => .error (mismatch "size" args) },
     { id := "size_list", arity := 1, receiver := some .list,
       call := fun
        | [.list items] => length items.length
        | args => .error (mismatch "size" args) },
     { id := "size_map", arity := 1, receiver := some .map,
       call := fun
        | [.map m] => length m.size
        | args => .error (mismatch "size" args) }]

/-- The overload for two texts of a function that tests them. -/
def onStrings (name : String) (test : String → String → Outcome Bool) : Overload where
  id := name ++ "_string"
  arity := 2
  receiver := some .string
  call := fun
    | .string s :: .string t :: _ => (test s t).map .bool
    | args => .error (mismatch name args)

/-- Whether `part` stands somewhere in `cs`. -/
def isInfix (part : List Char) : List Char → Bool
  | [] => part.isEmpty
  | c :: cs => part.isPrefixOf (c :: cs) || isInfix part cs

def startsWith : Function where
  name := "startsWith"
  overloads := [onStrings "startsWith" fun s t => .ok (t.toList.isPrefixOf s.toList)]

def endsWith : Function where
  name := "endsWith"
  overloads := [onStrings "endsWith" fun s t => .ok (t.toList.isSuffixOf s.toList)]

def contains : Function where
  name := "contains"
  overloads :=
    [onStrings "contains" fun s t => .ok (isInfix t.toList s.toList),
     { id := "contains_list", arity := 2, receiver := some .list,
       call := fun
        | [.list items, v] => .ok (.bool (items.any fun item => item.equals v))
        | args => .error (mismatch "contains" args) }]

/-- What patterns mean: the test of texts that a pattern spells, or why it spells none. -/
abbrev Matcher := (pattern : String) → Except String (String → Bool)

/-- Whether a text matches a pattern. -/
def matchesPattern (matcher : Matcher) (text pattern : String) : Outcome Bool :=
  match matcher pattern with
  | .ok test => .ok (test text)
  | .error reason => .error (.invalidArgument ("invalid regex: " ++ reason))

def matching (matcher : Matcher) : Function where
  name := "matches"
  overloads := [onStrings "matches" (matchesPattern matcher)]

end ExprLang.Library
