import ExprLang.Text.Utf8
import ExprLang.Number.Digits

/-!
# Quoted literals

The body of a quoted literal is a run of pieces up to the closing quote. A piece is a character that stands for
itself or is named by an escape, or a number below 256 given in hexadecimal or octal. Such a number is a code
point in a text and one byte in a byte string; all else is the same in both.

`decode` reads a body with escapes, `raw` one without, `verbatim` one between tripled quotes, which may hold line
ends. `text` and `bytes` write literals that `decode` reads back.
-/

namespace ExprLang

/-- One piece of the body of a quoted literal. -/
inductive Piece where
  /-- a character -/
  | char (c : Char)
  /-- a number given by a hexadecimal pair or an octal triple -/
  | code (b : UInt8)
  deriving DecidableEq, Repr

namespace Piece

/-- What a piece stands for in a text. -/
def toChar : Piece → Char
  | char c => c
  | code b => Char.ofUInt8 b

/-- What a piece stands for in a byte string. -/
def toBytes : Piece → List UInt8
  | char c => String.utf8EncodeChar c
  | code b => [b]

end Piece

namespace Quoted

/-- The character that a one-letter escape names. -/
def named? : Char → Option Char
  | '\\' => some '\\'
  | '/' => some '/'
  | '"' => some '"'
  | '\'' => some '\''
  | '\x60' => some '\x60'
  | '?' => some '?'
  | 'a' => some '\x07'
  | 'b' => some '\x08'
  | 'f' => some '\x0c'
  | 'n' => some '\n'
  | 'r' => some '\r'
  | 't' => some '\t'
  | 'v' => some '\x0b'
  | _ => none

/-- The character with number `n`, surrogates excluded. -/
def scalar? (n : Nat) : Option Char := if n.isValidChar then some (Char.ofNat n) else none

/-- The piece that the text after a backslash names, and how many characters name it. -/
def escape? : List Char → Option (Piece × Nat)
  | [] => none
  | c :: cs =>
    if c = 'x' ∨ c = 'X' then (Digits.fixed? 16 2 cs).map fun n => (.code (UInt8.ofNat n), 3)
    else if c = 'u' then ((Digits.fixed? 16 4 cs).bind scalar?).map fun d => (.char d, 5)
    else if c = 'U' then ((Digits.fixed? 16 8 cs).bind scalar?).map fun d => (.char d, 9)
    else if '0' ≤ c ∧ c ≤ '3' then (Digits.fixed? 8 3 (c :: cs)).map fun n => (.code (UInt8.ofNat n), 3)
    else (named? c).map fun d => (.char d, 1)

/-- The pieces up to the closing quote and what follows it. A line end before the quote, a faulty escape or a
missing quote leaves no reading. -/
def decode (quote : Char) : List Char → Option (List Piece × List Char)
  | [] => none
  | c :: cs =>
    if c = quote then some ([], cs)
    else if c = '\n' ∨ c = '\r' then none
    else if c = '\\' then
      match escape? cs with
      | none => none
      | some (p, n) => (decode quote (cs.drop n)).map fun (ps, rest) => (p :: ps, rest)
    else (decode quote cs).map fun (ps, rest) => (.char c :: ps, rest)
  termination_by cs => cs.length
  decreasing_by all_goals simp only [List.length_cons, List.length_drop]; omega

/-- The characters up to the closing quote, on one line, and what follows it. -/
def raw (quote : Char) : List Char → Option (List Char × List Char)
  | [] => none
  | c :: cs =>
    if c = quote then some ([], cs)
    else if c = '\n' ∨ c = '\r' then none
    else (raw quote cs).map fun (body, rest) => (c :: body, rest)

/-- The characters up to the first three quotes in a row, and what follows these. -/
def verbatim (quote : Char) : List Char → Option (List Char × List Char)
  | [] => none
  | c :: cs =>
    if [quote, quote, quote].isPrefixOf (c :: cs) then some ([], cs.drop 2)
    else (verbatim quote cs).map fun (body, rest) => (c :: body, rest)

/-! ### Writing -/

/-- The control characters: those below the space, and from delete to the end of the second control block. -/
def isControl (c : Char) : Bool := c.val < 0x20 || (0x7f ≤ c.val && c.val < 0xa0)

/-- How a character of a text is written. -/
def encodeChar (c : Char) : List Char :=
  if c = '"' then ['\\', '"']
  else if c = '\\' then ['\\', '\\']
  else if c = '\n' then ['\\', 'n']
  else if c = '\r' then ['\\', 'r']
  else if c = '\t' then ['\\', 't']
  else if isControl c then '\\' :: 'u' :: Digits.write 16 c.toNat 4
  else [c]

/-- How a byte of a byte string is written. -/
def encodeByte (b : UInt8) : List Char :=
  if b = 0x22 then ['\\', '"']
  else if b = 0x5c then ['\\', '\\']
  else if 0x20 ≤ b ∧ b ≤ 0x7e then [Char.ofUInt8 b]
  else '\\' :: 'x' :: Digits.write 16 b.toNat 2

/-- A text as a literal. -/
def text (s : String) : String := String.ofList ('"' :: s.toList.flatMap encodeChar ++ ['"'])

/-- A byte string as a literal. -/
def bytes (bs : List UInt8) : String := String.ofList ('b' :: '"' :: bs.flatMap encodeByte ++ ['"'])

end Quoted

end ExprLang
