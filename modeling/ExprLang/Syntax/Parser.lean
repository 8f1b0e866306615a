import ExprLang.Syntax.Error
import ExprLang.Syntax.Expr

/-!
# Reading expressions

Each reader takes the tokens that are left and gives a value with the tokens behind it, or the fault and the tokens
from the fault on. What is left is shorter after a success, and the type says so.

The readers of the levels are built on one another: a run of a level has operands of the next level. They read in any
monad that can fail. Nested expressions are read by `expr`, which counts how deep it stands and refuses to go deeper
than the limit, so reading ends for every limit.
-/

namespace ExprLang

/-- A value that was read and the tokens behind it, fewer than `bound`. -/
structure Parsed (β : Type) (bound : Nat) where
  value : β
  rest : List SpannedToken
  shorter : rest.length < bound

/-- A fault and the tokens from the place on where it shows. -/
structure Failure where
  fault : SyntaxFault
  rest : List SpannedToken

/-- The error that a failure is, among tokens that end at `eof`. -/
def Failure.toError (eof : Span) (f : Failure) : ParseError :=
  match f.rest with
  | [] => .syntactic f.fault none eof
  | (t, span) :: _ => .syntactic f.fault (some t) span

/-- A way to read a value from the head of the tokens, in the monad `m`. -/
abbrev ReaderIn (m : Type → Type) (β : Type) := (s : List SpannedToken) → m (Parsed β s.length)

/-- A tree whose notes are the places of its nodes in the text. -/
abbrev SpannedExpr := Expr Span

/-- The place of an expression. -/
def Expr.span (e : SpannedExpr) : Span := e.note

/-- The place of a chain, from its first operand to its last. -/
def Chain.span (c : Chain SpannedExpr) : Span := c.first.span.through c.last.span

namespace Parser

variable {m : Type → Type} [Monad m] [MonadExcept Failure m] {β : Type}

/-- Reads one given symbol. -/
def expect (y : Symbol) : ReaderIn m Span
  | (.symbol x, span) :: rest =>
    if x = y then pure ⟨span, rest, by simp⟩ else throw ⟨.expected y, (.symbol x, span) :: rest⟩
  | s => throw ⟨.expected y, s⟩

/-- Whether the tokens begin with the given symbol. -/
def startsWith (y : Symbol) : List SpannedToken → Bool
  | (.symbol x, _) :: _ => x = y
  | _ => false

/-! ### Series -/

/-- Reads what follows an item of a series: commas and further items, and the closing symbol. A comma may stand
before the closing symbol where `trailing` allows it. -/
def moreItems (item : ReaderIn m β) (close : Symbol) (trailing : Bool) : ReaderIn m (List β × Span) := fun s =>
  match s with
  | (.symbol .comma, _) :: rest =>
    if trailing && startsWith close rest then do
      let c ← expect close rest
      return ⟨([], c.value), c.rest, Nat.lt_succ_of_lt c.shorter⟩
    else do
      let x ← item rest
      let more ← moreItems item close trailing x.rest
      return ⟨(x.value :: more.value.1, more.value.2), more.rest,
        Nat.lt_succ_of_lt (Nat.lt_trans more.shorter x.shorter)⟩
  | s => do
    let c ← expect close s
    return ⟨([], c.value), c.rest, c.shorter⟩
  termination_by s => s.length
  decreasing_by exact Nat.lt_succ_of_lt x.shorter

/-- Reads items with commas between them, up to the closing symbol. -/
def series (item : ReaderIn m β) (close : Symbol) (trailing : Bool) : ReaderIn m (List β × Span) := fun s =>
  if startsWith close s then do
    let c ← expect close s
    return ⟨([], c.value), c.rest, c.shorter⟩
  else do
    let x ← item s
    let more ← moreItems item close trailing x.rest
    return ⟨(x.value :: more.value.1, more.value.2), more.rest, Nat.lt_trans more.shorter x.shorter⟩

/-- Reads a key and its value. -/
def entry (nested : ReaderIn m SpannedExpr) : ReaderIn m (SpannedExpr × SpannedExpr) := fun s => do
  let key ← nested s
  let colon ← expect .colon key.rest
  let value ← nested colon.rest
  return ⟨(key.value, value.value), value.rest,
    Nat.lt_trans value.shorter (Nat.lt_trans colon.shorter key.shorter)⟩

/-! ### Operands -/

/-- Reads a literal, a name, or an expression in brackets of any kind. -/
def primary (nested : ReaderIn m SpannedExpr) : ReaderIn m SpannedExpr
  | (.literal l, span) :: rest => pure ⟨.literal span l, rest, by simp⟩
  | (.name n, span) :: rest => pure ⟨.name span n, rest, by simp⟩
  | (.reserved w, span) :: rest => throw ⟨.reservedWord w, (.reserved w, span) :: rest⟩
  | (.symbol .openParen, _) :: rest => do
    let e ← nested rest
    let close ← expect .closeParen e.rest
    return ⟨e.value, close.rest, Nat.lt_succ_of_lt (Nat.lt_trans close.shorter e.shorter)⟩
  | (.symbol .openBracket, span) :: rest => do
    let items ← series nested .closeBracket true rest
    return ⟨.list (span.through items.value.2) items.value.1, items.rest, Nat.lt_succ_of_lt items.shorter⟩
  | (.symbol .openBrace, span) :: rest => do
    let entries ← series (entry nested) .closeBrace true rest
    return ⟨.map (span.through entries.value.2) entries.value.1, entries.rest, Nat.lt_succ_of_lt entries.shorter⟩
  | s => throw ⟨.expectedExpression, s⟩

/-- Reads the calls, indexes and method calls that follow an operand. -/
def suffixes (nested : ReaderIn m SpannedExpr) (e : SpannedExpr) (s : List SpannedToken) :
    m (Parsed SpannedExpr (s.length + 1)) :=
  match s with
  | (.symbol .openParen, _) :: rest => do
    let args ← series nested .closeParen false rest
    let more ← suffixes nested (.call (e.span.through args.value.2) e args.value.1) args.rest
    return ⟨more.value, more.rest, by have := more.shorter; have := args.shorter; simp; omega⟩
  | (.symbol .openBracket, _) :: rest => do
    let i ← nested rest
    let close ← expect .closeBracket i.rest
    let more ← suffixes nested (.index (e.span.through close.value) e i.value) close.rest
    return ⟨more.value, more.rest, by
      have := more.shorter; have := close.shorter; have := i.shorter; simp; omega⟩
  | (.symbol .dot, _) :: (.name f, span) :: (.symbol .openParen, _) :: rest => do
    let args ← series nested .closeParen false rest
    let more ←
      suffixes nested (.call (e.span.through args.value.2) (.name span f) (e :: args.value.1)) args.rest
    return ⟨more.value, more.rest, by have := more.shorter; have := args.shorter; simp; omega⟩
  | (.symbol .dot, _) :: (.name f, _) :: rest => throw ⟨.expectedArguments f, rest⟩
  | (.symbol .dot, _) :: rest => throw ⟨.expectedMethodName, rest⟩
  | s => pure ⟨e, s, Nat.lt_succ_self _⟩
  termination_by s.length
  decreasing_by
    · have := args.shorter; simp; omega
    · have := close.shorter; have := i.shorter; simp; omega
    · have := args.shorter; simp; omega

/-- Reads an operand with what follows it. -/
def operand (nested : ReaderIn m SpannedExpr) : ReaderIn m SpannedExpr := fun s => do
  let e ← primary nested s
  let more ← suffixes nested e.value e.rest
  return ⟨more.value, more.rest, Nat.lt_of_lt_of_le more.shorter e.shorter⟩

/-- The operator that a symbol is in front of an operand. -/
def sign? : Symbol → Option UnaryOp
  | .not => some .not
  | .minus => some .neg
  | _ => none

/-- The operator that the first token is in front of an operand. -/
def leadingSign? : List SpannedToken → Option UnaryOp
  | (.symbol y, _) :: _ => sign? y
  | _ => none

/-- Whether a token is the given operator in front of an operand. -/
def isSign (op : UnaryOp) (t : SpannedToken) : Bool := leadingSign? [t] = some op

/-- Reads an operand behind a run of one operator. The other operator cannot follow the run. -/
def signed (nested : ReaderIn m SpannedExpr) : ReaderIn m SpannedExpr
  | [] => operand nested []
  | (t, span) :: rest =>
    match leadingSign? [(t, span)] with
    | none => operand nested ((t, span) :: rest)
    | some op =>
      let behind := rest.dropWhile (isSign op)
      let count := 1 + (rest.takeWhile (isSign op)).length
      if (leadingSign? behind).isSome then throw ⟨.mixedSigns op, behind⟩
      else do
        let e ← operand nested behind
        return ⟨.unary (span.through e.value.span) op count e.value, e.rest,
          Nat.lt_succ_of_lt (Nat.lt_of_lt_of_le e.shorter (List.dropWhile_sublist _).length_le)⟩

/-! ### Operators between operands -/

/-- The operator that a symbol is at a level. -/
def operator? : Level → Symbol → Option BinaryOp
  | .or, .or => some .or
  | .and, .and => some .and
  | .additive, .plus => some .add
  | .additive, .minus => some .sub
  | .multiplicative, .star => some .mul
  | .multiplicative, .slash => some .div
  | .multiplicative, .percent => some .mod
  | _, _ => none

/-- The comparison that a symbol is. -/
def relation? : Symbol → Option BinaryOp
  | .eq => some .eq
  | .ne => some .ne
  | .lt => some .lt
  | .le => some .le
  | .gt => some .gt
  | .ge => some .ge
  | .member => some .member
  | _ => none

/-- The operator, as `f` has it, that the first token is. -/
def leading? (f : Symbol → Option BinaryOp) : List SpannedToken → Option BinaryOp
  | (.symbol y, _) :: _ => f y
  | _ => none

/-- Reads the operators of a level and the operands behind them. -/
def following (next : ReaderIn m SpannedExpr) (level : Level) (s : List SpannedToken) :
    m (Parsed (List (BinaryOp × SpannedExpr)) (s.length + 1)) :=
  match s with
  | [] => pure ⟨[], [], Nat.lt_succ_self _⟩
  | t :: rest =>
    match leading? (operator? level) [t] with
    | none => pure ⟨[], t :: rest, Nat.lt_succ_self _⟩
    | some op => do
      let e ← next rest
      let more ← following next level e.rest
      return ⟨(op, e.value) :: more.value, more.rest, by
        have := more.shorter; have := e.shorter; simp; omega⟩
  termination_by s.length
  decreasing_by have := e.shorter; simp; omega

/-- A lone operand as it is, several operands as a chain. -/
def chained (level : Level) (first : SpannedExpr) : List (BinaryOp × SpannedExpr) → SpannedExpr
  | [] => first
  | (op, second) :: rest =>
    let c : Chain SpannedExpr := ⟨first, op, second, rest⟩
    .chain c.span level c

/-- Reads a run of operands of a level. -/
def run (next : ReaderIn m SpannedExpr) (level : Level) : ReaderIn m SpannedExpr := fun s => do
  let first ← next s
  let more ← following next level first.rest
  return ⟨chained level first.value more.value, more.rest, Nat.lt_of_lt_of_le more.shorter first.shorter⟩

/-- Reads at most one comparison; a second one cannot follow it. -/
def comparison (next : ReaderIn m SpannedExpr) : ReaderIn m SpannedExpr := fun s => do
  let left ← next s
  match h : left.rest with
  | [] => return left
  | t :: rest =>
    match leading? relation? [t] with
    | none => return left
    | some op => do
      let right ← next rest
      match leading? relation? right.rest with
      | some again => throw ⟨.chainedRelation op again, right.rest⟩
      | none =>
        return ⟨.relation (left.value.span.through right.value.span) op left.value right.value, right.rest, by
          have := right.shorter; have := left.shorter; simp [h] at this; omega⟩

/-! ### Expressions -/

/-- Reads an expression without a condition in front. -/
def disjunction (nested : ReaderIn m SpannedExpr) : ReaderIn m SpannedExpr :=
  run (run (comparison (run (run (signed nested) .multiplicative) .additive)) .and) .or

/-- Reads an expression, perhaps with a condition. What is taken when the condition holds is read without a
condition of its own; what is taken otherwise may have one. -/
def conditional (nested : ReaderIn m SpannedExpr) : ReaderIn m SpannedExpr := fun s => do
  let cond ← disjunction nested s
  match h : cond.rest with
  | (.symbol .question, _) :: rest => do
    let yes ← disjunction nested rest
    let colon ← expect .colon yes.rest
    let no ← nested colon.rest
    return ⟨.ternary (cond.value.span.through no.value.span) cond.value yes.value no.value, no.rest, by
      have := no.shorter; have := colon.shorter; have := yes.shorter; have := cond.shorter
      simp [h] at this; omega⟩
  | _ => return cond

/-- Readings that count how deep they stand. The count is kept when they fail. -/
abbrev Counting := ExceptT Failure (StateM Nat)

/-- Goes one level deeper. Where the limit does not allow that it fails, and the level is counted nevertheless. -/
def deepen (limit : Nat) (s : List SpannedToken) : Counting Unit := do
  modify (· + 1)
  if limit < (← get) then throw ⟨.tooDeep limit, s⟩

/-- Reads an expression one level deeper, and comes back from that level at the end, with a failure as well. The limit
is met before the levels of the recursion come to their end, if there are as many of them. -/
def expr (limit : Nat) : (levels : Nat) → ReaderIn Counting SpannedExpr
  | 0, s => do
    deepen limit s
    throw ⟨.tooDeep limit, s⟩
  | levels + 1, s => do
    deepen limit s
    let outcome ← observing (conditional (fun r => expr limit levels r) s)
    modify (· - 1)
    MonadExcept.ofExcept outcome

/-- Reads an expression at the given depth, and gives the depth afterwards. -/
def exprAt (limit depth : Nat) (s : List SpannedToken) : Except Failure (Parsed SpannedExpr s.length) × Nat :=
  (expr limit limit s).run.run depth

end Parser

/-- The place at the end of the tokens. -/
def endOfInput (tokens : List SpannedToken) : Span :=
  match tokens.getLast? with
  | some (_, span) => span.after
  | none => ⟨0, 0⟩

/-- How deep expressions may nest when nothing else is said. -/
def defaultNesting : Nat := 250

/-- The expression that the tokens spell, nested at most `limit` deep. -/
def parseTokens (limit : Nat) (tokens : List SpannedToken) : Except ParseError SpannedExpr :=
  match (Parser.exprAt limit 0 tokens).1 with
  | .ok e =>
    if e.rest.isEmpty then .ok e.value
    else .error (Failure.toError (endOfInput tokens) ⟨.leftover, e.rest⟩)
  | .error f => .error (f.toError (endOfInput tokens))

/-- The expression that a text spells, nested at most `limit` deep. -/
def parse (limit : Nat) (source : String) : Except ParseError SpannedExpr :=
  match lex source with
  | .ok tokens => parseTokens limit tokens
  | .error e => .error (.lexical e)

end ExprLang
