import ExprLang.Number.Digits
import ExprLang.Unicode.Age
import ExprLang.Unicode.Binary
import ExprLang.Unicode.Category
import ExprLang.Unicode.CharSet
import ExprLang.Unicode.Script
import ExprLang.Unicode.ScriptExtension
import ExprLang.Unicode.Segmentation

/-!
# Properties of characters

A property of characters has a name, and most have values with names. Names are compared without regard to case,
blanks, dashes, underscores and an `is` in front. A name alone stands for a property that characters have or have
not, for a general category or for a script, in this order.
-/

namespace ExprLang.Unicode

/-! ### Tables -/

/-- The words of a text, with blanks and line ends between them. -/
def words (text : String) : List String := text.splitToList fun c => c = ' ' || c = '\n'

/-- The numbers among the words of a text. -/
def numbers (text : String) : List Nat := (words text).filterMap fun w => Digits.value? 10 w.toList

/-- The ranges that gaps and lengths describe, from a code point on. -/
def rangesFrom (start : Nat) : List Nat → List CodeRange
  | gap :: length :: rest =>
    ⟨start + gap, start + gap + length - 1⟩ :: rangesFrom (start + gap + length) rest
  | _ => []

/-- The set that a table describes by gaps and lengths. -/
def decode (text : String) : CharSet := ⟨rangesFrom 0 (numbers text)⟩

/-- The row of a table that has the given normalised name. -/
def find? (table : List (String × String)) (name : String) : Option CharSet :=
  (table.find? fun row => (words row.1).contains name).map fun row => decode row.2

/-- The set in the row of a table that has the given normalised name, empty where there is no such row. -/
def named (table : List (String × String)) (name : String) : CharSet := (find? table name).getD .empty

/-! ### Sets with names of their own -/

/-- The characters that count as space. -/
def whiteSpace : CharSet := named binaries "whitespace"

/-- The decimal digits of all scripts. -/
def decimalDigit : CharSet := named categories "nd"

def alphabetic : CharSet := named binaries "alphabetic"

/-- The letters and numbers of all scripts. -/
def alphanumeric : CharSet := (CharSet.unions (alphabetic :: ["nd", "nl", "no"].map (named categories))).tidy

/-- The characters that words consist of. -/
def word : CharSet :=
  (CharSet.unions
    (alphabetic :: named binaries "joincontrol" :: ["mn", "mc", "me", "nd", "pc"].map (named categories))).tidy

/-- What cannot be seen alone: controls, blanks other than the space, code points without a character, and marks that
join the character in front. -/
def invisible : CharSet :=
  ((CharSet.unions
    (named binaries "graphemeextend" :: ["cc", "cf", "cn", "co", "zl", "zp", "zs"].map (named categories))).diff
    (.singleton ' ')).tidy

/-! ### Names -/

/-- A name in the form in which names are compared. -/
def normalise (name : List Char) : String :=
  let hasIs := match name with
    | i :: s :: _ => i.toLower = 'i' && s.toLower = 's'
    | _ => false
  let body := ((if hasIs then name.drop 2 else name).filter fun c =>
    c.toNat < 128 && c ≠ ' ' && c ≠ '_' && c ≠ '-').map Char.toLower
  -- `isc` names another property, so it is not the category `c`
  String.ofList (if hasIs && body = ['c'] then ['i', 's', 'c'] else body)

/-- The categories that a group of categories consists of. -/
def categoryGroup? : String → Option (List String)
  | "l" | "letter" => some ["lu", "ll", "lt", "lm", "lo"]
  | "lc" | "casedletter" => some ["lu", "ll", "lt"]
  | "m" | "mark" | "combiningmark" => some ["mn", "mc", "me"]
  | "n" | "number" => some ["nd", "nl", "no"]
  | "p" | "punctuation" | "punct" => some ["pc", "pd", "ps", "pe", "pi", "pf", "po"]
  | "s" | "symbol" => some ["sm", "sc", "sk", "so"]
  | "z" | "separator" => some ["zs", "zl", "zp"]
  | "c" | "other" => some ["cc", "cf", "cn", "co"]
  | _ => none

/-- The characters of a general category or of a group of categories. -/
def category? (name : String) : Option CharSet :=
  match name with
  | "any" => some .full
  | "assigned" => some (named categories "cn").compl
  | "ascii" => some (.ofRange 0 127)
  | _ =>
    match categoryGroup? name with
    | some members => some (.unions (members.map (named categories)))
    | none => find? categories name

/-- The characters assigned up to a version, of a table with the first version first. -/
def assignedBy? (name : String) : List (String × String) → Option CharSet
  | [] => none
  | (names, text) :: table =>
    if (words names).contains name then some (decode text)
    else (assignedBy? name table).map (decode text).union

/-- The characters with a value of a property, both names normalised. -/
def withValue? (property value : String) : Option CharSet :=
  match property with
  | "gc" | "generalcategory" => category? value
  | "sc" | "script" => find? scripts value
  | "scx" | "scriptextensions" => (find? scriptExtensions value).or (find? scripts value)
  | "age" => assignedBy? value ages
  | "gcb" | "graphemeclusterbreak" => find? graphemeBreaks value
  | "wb" | "wordbreak" => find? wordBreaks value
  | "sb" | "sentencebreak" => find? sentenceBreaks value
  | _ => none

/-- The characters that a normalised name alone stands for. -/
def withName? (name : String) : Option CharSet :=
  (find? binaries name).or ((category? name).or (find? scripts name))

end ExprLang.Unicode
