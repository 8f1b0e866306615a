import ExprLang.Syntax.Operator
import ExprLang.Token.Lexer

/-!
# Syntax errors

What can be wrong with a text: a stretch of it is no token, or the tokens cannot go on as they do. An error of the
second kind names the fault and the token at which it shows; the end of the input counts as a place too.
-/

namespace ExprLang

/-- Why the tokens cannot go on as they do. -/
inductive SyntaxFault where
  | expected (s : Symbol)
  | expectedExpression
  | expectedMethodName
  | expectedArguments (method : String)
  /-- an operator in front of an operand follows the other one -/
  | mixedSigns (op : UnaryOp)
  | reservedWord (word : String)
  /-- a comparison follows the right operand of a comparison -/
  | chainedRelation (op next : BinaryOp)
  | tooDeep (limit : Nat)
  | leftover
  deriving DecidableEq, Repr

/-- A text that is no expression. -/
inductive ParseError where
  | lexical (e : LexError)
  | syntactic (fault : SyntaxFault) (found : Option Token) (span : Span)

/-- What is said of a fault, given how the token at the fault is named. -/
def SyntaxFault.message (found : String) : SyntaxFault → String
  | expected s => "expected '" ++ s.text ++ "', found " ++ found
  | expectedExpression => "expected expression, found " ++ found
  | expectedMethodName => "expected method name after '.', found " ++ found
  | expectedArguments method => "expected '(' after method name '" ++ method ++ "', found " ++ found
  | mixedSigns op =>
    "prefix operator '" ++ op.text ++ "' cannot be mixed with a different prefix operator, found " ++ found
  | reservedWord word => "'" ++ word ++ "' is a reserved word and cannot be used as an identifier"
  | chainedRelation op next =>
    "relational operators cannot be chained: unexpected '" ++ next.text ++ "' after '" ++ op.text ++ "'"
  | tooDeep limit => "expression exceeds maximum nesting depth of " ++ String.ofList (Digits.write 10 limit 1)
  | leftover => "unexpected tokens after expression, found " ++ found

namespace ParseError

def message : ParseError → String
  | lexical e => e.message
  | syntactic fault found _ =>
    fault.message (match found with
      | some t => "'" ++ t.text ++ "'"
      | none => "end of input")

def span : ParseError → Span
  | lexical e => e.span
  | syntactic _ _ span => span

end ParseError

/-- A message and its place. -/
def Span.describe (s : Span) (message : String) : String :=
  message ++ " at " ++ String.ofList (Digits.write 10 s.start 1) ++ ".." ++ String.ofList (Digits.write 10 s.stop 1)

/-- The message and place of a text that is no token. -/
def LexError.report (e : LexError) : String := e.span.describe e.message

/-- The message and place of an error. -/
def ParseError.report (e : ParseError) : String := e.span.describe e.message

end ExprLang
