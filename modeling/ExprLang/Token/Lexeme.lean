import ExprLang.Token.Basic

/-!
# Lexemes

A rule tells how long a text of its kind stands at the head of the input; `recognise` takes the longest match of
all rules. The recognised text of a quoted literal is its opening only. `Lexeme.read` then makes the token, and for
a quoted literal takes the body from what follows; it fails when a number is out of range or a body is faulty.
-/

namespace ExprLang

/-- How the body of a quoted literal is read. -/
inductive Body where
  /-- on one line, with escapes -/
  | escaped
  /-- on one line, as it stands -/
  | raw
  /-- between tripled quotes, as it stands -/
  | verbatim
  deriving DecidableEq, Repr

/-- The opening of a quoted literal. -/
structure Opening where
  isBytes : Bool
  body : Body
  quote : Char
  deriving DecidableEq, Repr

/-- What kind of text a rule recognises. -/
inductive Lexeme where
  | blank
  | integer (base : Nat)
  | unsigned (base : Nat)
  | float
  | quoted (o : Opening)
  | word
  | sign (s : Symbol)
  deriving DecidableEq, Repr

/-- A kind of text at the head of the input, and its length. -/
abbrev Rule := List Char → Option (Lexeme × Nat)

namespace Lexeme

/-! ### Rules -/

def isBlank (c : Char) : Bool := c = ' ' || c = '\t' || c = '\n' || c = '\r' || c = '\x0c'

def isLetter (c : Char) : Bool := c.isAlpha || c = '_'

def isWordChar (c : Char) : Bool := c.isAlphanum || c = '_'

/-- A run of blanks. -/
def blanks : Rule := fun cs =>
  let n := (cs.takeWhile isBlank).length
  if n = 0 then none else some (.blank, n)

/-- A comment, from two slashes to the end of the line. -/
def comment : Rule
  | '/' :: '/' :: cs => some (.blank, 2 + (cs.takeWhile (· ≠ '\n')).length)
  | _ => none

/-- A run of at least one digit, perhaps with the suffix of unsigned integers. -/
def digits (base : Nat) (cs : List Char) : Option (Lexeme × Nat) :=
  let n := Digits.runLength base cs
  if n = 0 then none
  else
    match cs.drop n with
    | 'u' :: _ | 'U' :: _ => some (.unsigned base, n + 1)
    | _ => some (.integer base, n)

/-- A decimal integer. -/
def decimal : Rule := digits 10

/-- A hexadecimal integer. -/
def hexadecimal : Rule
  | '0' :: 'x' :: cs | '0' :: 'X' :: cs => (digits 16 cs).map fun (l, n) => (l, n + 2)
  | _ => none

/-- The length of the exponent part at the head of the input, `0` where there is none. -/
def exponentLength : List Char → Nat
  | c :: cs =>
    if c = 'e' ∨ c = 'E' then
      let sign := match cs with
        | '+' :: _ | '-' :: _ => 1
        | _ => 0
      let n := Digits.runLength 10 (cs.drop sign)
      if n = 0 then 0 else 1 + sign + n
    else 0
  | [] => 0

/-- A number with a point, and digits behind it, or with an exponent. -/
def real : Rule := fun cs =>
  let n := Digits.runLength 10 cs
  let k := match cs.drop n with
    | '.' :: r => Digits.runLength 10 r
    | _ => 0
  if k ≠ 0 then some (.float, n + 1 + k + exponentLength (cs.drop (n + 1 + k)))
  else if n ≠ 0 ∧ exponentLength (cs.drop n) ≠ 0 then some (.float, n + exponentLength (cs.drop n))
  else none

/-- The quote at the head of the input, and whether it is tripled. -/
def quote? : List Char → Option (Char × Bool)
  | c :: cs => if c = '"' ∨ c = '\x27' then some (c, [c, c].isPrefixOf cs) else none
  | [] => none

/-- The opening of a literal whose letters in front are `count` many. -/
def opening (isBytes isRaw : Bool) (count : Nat) (cs : List Char) : Option (Lexeme × Nat) :=
  (quote? (cs.drop count)).map fun (q, tripled) =>
    if tripled && !(isBytes && isRaw) then (.quoted ⟨isBytes, .verbatim, q⟩, count + 3)
    else (.quoted ⟨isBytes, if isRaw then .raw else .escaped, q⟩, count + 1)

/-- The opening of a text or byte string. Tripled quotes open a text with or without the letter of raw literals,
and a byte string only without it. -/
def literalOpening : Rule := fun cs =>
  match cs with
  | [] => none
  | c :: rest =>
    if c = 'r' ∨ c = 'R' then opening false true 1 cs
    else if c = 'b' ∨ c = 'B' then
      match rest with
      | 'r' :: _ | 'R' :: _ => opening true true 2 cs
      | _ => opening true false 1 cs
    else opening false false 0 cs

/-- A word. -/
def words : Rule
  | c :: cs => if isLetter c then some (.word, 1 + (cs.takeWhile isWordChar).length) else none
  | [] => none

/-- An operator or punctuation. -/
def symbols : Rule := fun cs =>
  (Symbol.signs.find? fun s => s.text.toList.isPrefixOf cs).map fun s => (.sign s, s.text.toList.length)

def rules : List Rule := [blanks, comment, decimal, hexadecimal, real, literalOpening, words, symbols]

/-- The longer of two matches, the first where they are equally long. -/
def longer (a b : Option (Lexeme × Nat)) : Option (Lexeme × Nat) :=
  match a, b with
  | some (l, n), some (k, m) => if n < m then some (k, m) else some (l, n)
  | some x, none => some x
  | none, b => b

/-- The longest match at the head of the input. -/
def recognise (cs : List Char) : Option (Lexeme × Nat) := rules.foldl (fun best rule => longer best (rule cs)) none

/-! ### Tokens of lexemes -/

/-- The number that the text of an integer spells. -/
def magnitude? : List Char → Option Nat
  | '0' :: 'x' :: cs | '0' :: 'X' :: cs => Digits.value? 16 cs
  | cs => Digits.value? 10 cs

/-- The magnitude of the least integer, which is one above that of the greatest. -/
def leastMagnitude : Nat := Nat.pow 2 63

/-- The token of an integer without sign, where it is in range. -/
def integerToken? (text : List Char) : Option Token :=
  (magnitude? text).bind fun n =>
    if n < leastMagnitude then some (.literal (.int (Int64.ofNat n))) else none

/-- The token of an unsigned integer, where it is in range. -/
def unsignedToken? (text : List Char) : Option Token :=
  (magnitude? text.dropLast).bind fun n =>
    if n < UInt64.size then some (.literal (.uint (UInt64.ofNat n))) else none

/-- The literal that an opening and the text after it give, and what follows the literal. -/
def quotedToken? (o : Opening) (cs : List Char) : Option (Token × List Char) :=
  match o.body with
  | .escaped => (Quoted.decode o.quote cs).map fun (ps, rest) =>
    (.literal (if o.isBytes then .bytes (ps.flatMap Piece.toBytes) else .string (String.ofList (ps.map Piece.toChar))),
      rest)
  | .raw => (Quoted.raw o.quote cs).map fun (body, rest) => (ofBody body, rest)
  | .verbatim => (Quoted.verbatim o.quote cs).map fun (body, rest) => (ofBody body, rest)
where
  ofBody (body : List Char) : Token :=
    .literal (if o.isBytes then .bytes (Utf8.encode body) else .string (String.ofList body))

end Lexeme

/-- What stands at the head of the input: characters to pass over, a token, or a text that is no token. Each comes
with its length. -/
inductive Scan where
  | blank (n : Nat)
  | token (t : Token) (n : Nat)
  | reject (n : Nat)

namespace Scan

/-- A token with the text that it was made of, or the rejection of the text. -/
def ofToken? (t : Option Token) (n : Nat) : Scan :=
  match t with
  | some t => .token t n
  | none => .reject n

/-- Reads the head of a nonempty input. A character that no rule recognises is rejected alone. -/
def head (cs : List Char) : Scan :=
  match Lexeme.recognise cs with
  | none => .reject 1
  | some (.blank, n) => .blank n
  | some (.integer _, n) => ofToken? (Lexeme.integerToken? (cs.take n)) n
  | some (.unsigned _, n) => ofToken? (Lexeme.unsignedToken? (cs.take n)) n
  | some (.float, n) =>
    ofToken? ((Decimal.readFloat? (cs.take n)).map fun f => .literal (.float f)) n
  | some (.quoted o, n) =>
    match Lexeme.quotedToken? o (cs.drop n) with
    | some (t, rest) => .token t (cs.length - rest.length)
    | none => .reject n
  | some (.word, n) => .token (.ofWord (String.ofList (cs.take n))) n
  | some (.sign s, n) => .token (.symbol s) n

end Scan

end ExprLang
