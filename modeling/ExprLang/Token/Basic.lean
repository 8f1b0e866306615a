import ExprLang.Number.Shortest
import ExprLang.Text.Quoted
import ExprLang.Text.Span

/-!
# Tokens

A token is a literal, a name, a reserved word or a symbol. `Token.text` writes a token so that reading the text
gives the token back; infinities and not-a-number, which no literal spells, are the exception. `endsOperand` tells
whether a minus sign behind a token is a subtraction.
-/

namespace ExprLang

/-- A constant of the language. -/
inductive Literal where
  | null
  | bool (b : Bool)
  | int (n : Int64)
  | uint (n : UInt64)
  | float (f : Float)
  | string (s : String)
  | bytes (bs : List UInt8)
  deriving DecidableEq

namespace Literal

/-- The literal in expression syntax. -/
def text : Literal → String
  | null => "null"
  | bool b => if b then "true" else "false"
  | int n => String.ofList (Digits.writeInt n.toInt)
  | uint n => String.ofList (Digits.write 10 n.toNat 1 ++ ['u'])
  | float f => Binary64.write "NaN" "inf" "-inf" f
  | string s => Quoted.text s
  | bytes bs => Quoted.bytes bs

/-- The literal with a minus sign joined to it, where a sign can be joined. The least integer has no negation. -/
def negated? : Literal → Option Literal
  | int n => if n = Int64.minValue then none else some (int (-n))
  | float f => some (float (-f))
  | _ => none

end Literal

/-- The operators and punctuation. -/
inductive Symbol where
  | eq | ne | le | ge | and | or
  | plus | minus | star | slash | percent | lt | gt | not
  | question | colon | openParen | closeParen | openBracket | closeBracket | openBrace | closeBrace | dot | comma
  | member
  deriving DecidableEq, Repr

namespace Symbol

/-- The spelling of a symbol. -/
def text : Symbol → String
  | eq => "=="
  | ne => "!="
  | le => "<="
  | ge => ">="
  | and => "&&"
  | or => "||"
  | plus => "+"
  | minus => "-"
  | star => "*"
  | slash => "/"
  | percent => "%"
  | lt => "<"
  | gt => ">"
  | not => "!"
  | question => "?"
  | colon => ":"
  | openParen => "("
  | closeParen => ")"
  | openBracket => "["
  | closeBracket => "]"
  | openBrace => "\x7b"
  | closeBrace => "\x7d"
  | dot => "."
  | comma => ","
  | member => "in"

/-- The symbols that are not words, the longer spellings first. -/
def signs : List Symbol :=
  [eq, ne, le, ge, and, or, plus, minus, star, slash, percent, lt, gt, not, question, colon, openParen, closeParen,
    openBracket, closeBracket, openBrace, closeBrace, dot, comma]

end Symbol

/-- A token. -/
inductive Token where
  | literal (l : Literal)
  | name (s : String)
  | reserved (s : String)
  | symbol (s : Symbol)
  deriving DecidableEq

namespace Token

/-- The token in expression syntax. -/
def text : Token → String
  | literal l => l.text
  | name s => s
  | reserved s => s
  | symbol s => s.text

/-- Whether an operand can end with this token. -/
def endsOperand : Token → Bool
  | literal _ | name _ | reserved _ => true
  | symbol .closeParen | symbol .closeBracket | symbol .closeBrace => true
  | symbol _ => false

/-- The words that the language keeps for itself. -/
def reservedWords : List String :=
  ["as", "break", "const", "continue", "else", "for", "function", "if", "import", "let", "loop", "package",
    "namespace", "return", "var", "void", "while"]

/-- The token that a word is. -/
def ofWord (s : String) : Token :=
  if s = "true" then literal (.bool true)
  else if s = "false" then literal (.bool false)
  else if s = "null" then literal .null
  else if s = "in" then symbol .member
  else if s ∈ reservedWords then reserved s
  else name s

end Token

/-- A token and where it stands. -/
abbrev SpannedToken := Token × Span

end ExprLang
