import ExprLang.Regex.Flags
import ExprLang.Text.Quoted

/-!
# Escapes

What stands behind a backslash names a character, a class of characters or a condition on the place. Each reader
gives what it has read with what follows it.
-/

namespace ExprLang

/-- A part of a pattern that has no parts itself. -/
inductive Atom where
  /-- a character, and whether its number was given as a byte -/
  | literal (c : Char) (isByte : Bool)
  | set (s : CharSet)
  | look (l : Look)

namespace Escape

/-- The characters that mean something in patterns. -/
def metaChars : List Char := "\\.+*?()|[]\x7b\x7d^$#&-~".toList

/-- Whether a character stands for itself behind a backslash. -/
def standsForItself (c : Char) : Bool :=
  metaChars.contains c || (c.toNat < 128 && !c.isAlphanum && c ≠ '<' && c ≠ '>')

/-- The character that a one-letter escape names. -/
def named? : Char → Option Char
  | 'a' => some '\x07'
  | 'f' => some '\x0c'
  | 't' => some '\t'
  | 'n' => some '\n'
  | 'r' => some '\r'
  | 'v' => some '\x0b'
  | _ => none

/-- The characters up to a closing brace. -/
def braced (flags : Flags) (cs : List Char) : Checked (List Char × List Char) :=
  match flags.run (· ≠ '}') cs.length cs with
  | (body, _ :: rest) => .ok (body, rest)
  | (_, []) => .error .escapeUnfinished

/-! ### Characters by number -/

/-- The character of a hexadecimal number. -/
def charOf (isByte : Bool) (digits rest : List Char) : Checked (Atom × List Char) :=
  match (Digits.value? 16 digits).bind Quoted.scalar? with
  | some c => .ok (.literal c isByte, rest)
  | none => .error (if digits.all (Digits.isDigit 16) then .escapeCodeInvalid else .escapeDigitInvalid)

/-- Reads the number of a character: `count` hexadecimal digits, or any number of them in braces. -/
def code (flags : Flags) (count : Nat) (cs : List Char) : Checked (Atom × List Char) :=
  match flags.skip cs with
  | '{' :: rest => do
    let (digits, rest) ← braced flags rest
    charOf false digits rest
  | cs =>
    let (digits, rest) := flags.run (Digits.isDigit 16) count cs
    if digits.length = count then charOf (count = 2) digits rest
    else .error (if rest.isEmpty then .escapeUnfinished else .escapeDigitInvalid)

/-! ### Properties -/

/-- The two sides of the first place in `cs` where `sep` stands. -/
def splitAt? (sep : List Char) : List Char → Option (List Char × List Char)
  | [] => none
  | c :: cs =>
    if sep.isPrefixOf (c :: cs) then some ([], (c :: cs).drop sep.length)
    else (splitAt? sep cs).map fun (left, right) => (c :: left, right)

/-- The characters that the name of a property stands for, alone or with a value. -/
def named (flags : Flags) (negated : Bool) (name : List Char) : Checked CharSet :=
  let query : Option (List Char × List Char) × Bool :=
    match splitAt? ['!', '='] name with
    | some q => (some q, true)
    | none => ((splitAt? [':'] name).or (splitAt? ['='] name), false)
  let set := match query.1 with
    | some (property, value) => Unicode.withValue? (Unicode.normalise property) (Unicode.normalise value)
    | none => Unicode.withName? (Unicode.normalise name)
  match set with
  | some s => flags.foldAndNegate (negated != query.2) s
  | none => .error .propertyUnknown

/-- Reads the name of a property: one letter, or any text in braces. -/
def property (flags : Flags) (negated : Bool) (cs : List Char) : Checked (Atom × List Char) := do
  let (name, rest) ← match flags.skip cs with
    | [] => throw .escapeUnfinished
    | '{' :: rest => braced flags rest
    | '\\' :: _ => .error .propertyInvalid
    | c :: rest => .ok ([c], rest)
  if .unicode ∉ flags then .error .unicodeNotAllowed
  else return (.set (← named flags negated name), rest)

/-! ### Words -/

/-- The edge of a word that a name in braces stands for. -/
def edge? (name : List Char) : Option WordEdge :=
  match String.ofList name with
  | "start" => some .start
  | "end" => some .stop
  | "start-half" => some .startHalf
  | "end-half" => some .stopHalf
  | _ => none

/-- Reads what may follow `\b`. A brace that no letter and no dash follows begins a repetition. -/
def wordEdge (flags : Flags) (cs : List Char) : Checked (Atom × List Char) :=
  let isNameChar (c : Char) : Bool := c.isAlpha || c = '-'
  match cs with
  | '{' :: body =>
    match flags.skip body with
    | [] => .error .wordEdgeUnclosed
    | c :: _ =>
      if isNameChar c then
        match flags.run isNameChar body.length body with
        | (name, '}' :: rest) =>
          match edge? name with
          | some edge => .ok (.look (flags.wordEdge edge), rest)
          | none => .error .wordEdgeUnknown
        | _ => .error .wordEdgeUnclosed
      else .ok (.look (flags.wordEdge .any), cs)
  | _ => .ok (.look (flags.wordEdge .any), cs)

end Escape

/-- Reads what stands behind a backslash. -/
def Atom.readEscape (flags : Flags) : List Char → Checked (Atom × List Char)
  | [] => .error .escapeUnfinished
  | c :: cs =>
    let letterClass (negated : Bool) (k : LetterClass) : Checked (Atom × List Char) :=
      (flags.letterClassOrNot negated k).map fun s => (.set s, cs)
    match c with
    | 'x' => Escape.code flags 2 cs
    | 'u' => Escape.code flags 4 cs
    | 'U' => Escape.code flags 8 cs
    | 'p' => Escape.property flags false cs
    | 'P' => Escape.property flags true cs
    | 'd' => letterClass false .digit
    | 'D' => letterClass true .digit
    | 's' => letterClass false .space
    | 'S' => letterClass true .space
    | 'w' => letterClass false .word
    | 'W' => letterClass true .word
    | 'A' => .ok (.look .textStart, cs)
    | 'z' => .ok (.look .textEnd, cs)
    | 'b' => Escape.wordEdge flags cs
    | 'B' => .ok (.look (flags.wordEdge .none), cs)
    | '<' => .ok (.look (flags.wordEdge .start), cs)
    | '>' => .ok (.look (flags.wordEdge .stop), cs)
    | c =>
      if c.isDigit then .error .backreference
      else if Escape.standsForItself c then .ok (.literal c false, cs)
      else
        match Escape.named? c with
        | some d => .ok (.literal d false, cs)
        | none => .error .escapeUnknown

end ExprLang
