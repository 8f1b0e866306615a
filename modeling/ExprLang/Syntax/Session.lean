import ExprLang.Syntax.Parser

/-!
# Reading several expressions

A session reads one expression after the other from the same tokens. It stays at the place where the last reading
ended or failed, and at the depth that this reading left.
-/

namespace ExprLang

/-- Tokens that are being read. -/
structure Session where
  tokens : List SpannedToken
  rest : List SpannedToken
  depth : Nat
  limit : Nat

namespace Session

/-- A session at the first of the tokens. -/
def start (limit : Nat) (tokens : List SpannedToken) : Session := ⟨tokens, tokens, 0, limit⟩

def atEnd (s : Session) : Bool := s.rest.isEmpty

/-- Reads the next expression. -/
def next (s : Session) : Except ParseError SpannedExpr × Session :=
  match Parser.exprAt s.limit s.depth s.rest with
  | (.ok e, depth) => (.ok e.value, { s with rest := e.rest, depth })
  | (.error f, depth) => (.error (f.toError (endOfInput s.tokens)), { s with rest := f.rest, depth })

end Session

end ExprLang
