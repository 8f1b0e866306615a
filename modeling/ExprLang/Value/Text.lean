import ExprLang.Value.Basic

/-!
# The text of values

Values are written in expression syntax, so that evaluating the text gives the value back; the infinities and
not-a-number, which no expression spells so, are the exception.
-/

namespace ExprLang.Value

/-- Texts with a comma and a space between them. -/
def commas (texts : List String) : String := ", ".intercalate texts

/-- The text of a double as a value. -/
def floatText (f : Float) : String := Binary64.write "NaN" "+infinity" "-infinity" f

mutual

/-- The value in expression syntax. -/
def text : Value → String
  | null => "null"
  | bool b => (Literal.bool b).text
  | int n => (Literal.int n).text
  | uint n => (Literal.uint n).text
  | float f => floatText f
  | string s => Quoted.text s
  | bytes bs => Quoted.bytes bs
  | list items => "[" ++ commas (itemTexts items) ++ "]"
  | map m =>
    "\x7b" ++ commas ((List.finRange m.keys.length).map fun i =>
      (m.keys.get i).text ++ ": " ++ (m.value i).text) ++ "\x7d"
  termination_by structural v => v

/-- The texts of the items of a list. -/
def itemTexts : List Value → List String
  | [] => []
  | v :: vs => v.text :: itemTexts vs
  termination_by structural v => v

end

end ExprLang.Value
