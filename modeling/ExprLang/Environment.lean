import ExprLang.Eval.Evaluate
import ExprLang.Library.Standard
import ExprLang.Syntax.Parser

/-!
# Environments and programs

An environment says which functions expressions may call and how deep they may nest. A program is an expression
together with the functions of the environment that it was made in; changes of the environment do not reach it.
-/

namespace ExprLang

/-- Why a text has no value: it is no expression, or evaluation fails. -/
inductive Error where
  | parse (e : ParseError)
  | eval (e : EvalError)

/-- The description of an error and of the stage where it arose. -/
def Error.report : Error → String
  | parse e => "parse error: " ++ e.report
  | eval e => "evaluation error: " ++ e.report

/-- An expression with the functions it may call. -/
structure Program where
  expr : SpannedExpr
  functions : Registry

/-- The value of a program when names mean what the scope says. -/
def Program.run (p : Program) (scope : Scope) : Outcome Value := p.expr.eval ⟨scope, p.functions⟩

/-- Functions to call and a bound on the nesting. -/
structure Environment where
  functions : Registry
  nesting : Nat

namespace Environment

/-- No functions, and the usual nesting. -/
def bare : Environment := ⟨.empty, defaultNesting⟩

/-- The standard functions, and the usual nesting. -/
def standard : Environment := ⟨Library.standard, defaultNesting⟩

def withFunction (env : Environment) (f : Function) : Environment :=
  { env with functions := env.functions.register f }

def withNesting (env : Environment) (nesting : Nat) : Environment := { env with nesting }

/-- The program of an expression. -/
def program (env : Environment) (e : SpannedExpr) : Program := ⟨e, env.functions⟩

/-- The program that a text spells. -/
def compile (env : Environment) (source : String) : Except ParseError Program :=
  (parse env.nesting source).map env.program

/-- The value of a text. -/
def eval (env : Environment) (source : String) (scope : Scope) : Except Error Value :=
  match env.compile source with
  | .error e => .error (.parse e)
  | .ok p =>
    match p.run scope with
    | .error e => .error (.eval e)
    | .ok v => .ok v

end Environment

/-- The value of an expression that may call the standard functions. -/
def evaluate (e : SpannedExpr) (scope : Scope) : Outcome Value := e.eval ⟨scope, Library.standard⟩

end ExprLang
