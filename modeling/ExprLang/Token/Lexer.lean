import ExprLang.Token.Lexeme

/-!
# Reading tokens

`lex` reads a text from its head, one lexeme after the other, and then joins each minus sign that cannot be a
subtraction to the number that it touches. The magnitude of the least integer is in range only with its sign, so
this one sign is joined while reading.
-/

namespace ExprLang

/-- A stretch of the input that is no token. -/
structure LexError where
  text : String
  span : Span
  deriving DecidableEq, Repr

/-- The description of the error; one character is called unexpected, a longer text an invalid literal. -/
def LexError.message (e : LexError) : String :=
  (if e.text.length = 1 then "unexpected character '" else "invalid literal '") ++ e.text ++ "' at position " ++
    String.ofList (Digits.write 10 e.span.start 1)

namespace Lexer

/-- Joins the sign in front of the magnitude of the least integer. `tokens` are those read so far, the last one
first. -/
def joinLeast? (tokens : List SpannedToken) (text : List Char) (span : Span) : Option (List SpannedToken) :=
  if Lexeme.magnitude? text = some Lexeme.leastMagnitude then
    match tokens with
    | (.symbol .minus, sign) :: before =>
      if sign.stop = span.start ∧ !(before.head?.any fun t => t.1.endsOperand) then
        some ((.literal (.int Int64.minValue), sign.through span) :: before)
      else none
    | _ => none
  else none

/-- Reads the rest of the input, which begins at byte `pos`, behind the tokens read so far, the last one first. -/
def scanFrom (pos : Nat) (tokens : List SpannedToken) : List Char → Except LexError (List SpannedToken)
  | [] => .ok tokens.reverse
  | c :: cs =>
    match Scan.head (c :: cs) with
    | .blank n => scanFrom (pos + Utf8.size ((c :: cs).take n)) tokens (cs.drop (n - 1))
    | .token t n =>
      let stop := pos + Utf8.size ((c :: cs).take n)
      scanFrom stop ((t, ⟨pos, stop⟩) :: tokens) (cs.drop (n - 1))
    | .reject n =>
      let text := (c :: cs).take n
      let stop := pos + Utf8.size text
      match joinLeast? tokens text ⟨pos, stop⟩ with
      | some joined => scanFrom stop joined (cs.drop (n - 1))
      | none => .error ⟨String.ofList text, ⟨pos, stop⟩⟩
  termination_by cs => cs.length
  decreasing_by all_goals simp only [List.length_cons, List.length_drop]; omega

/-- Joins minus signs to the numbers that they touch. `last` is the token in front, after joining. -/
def joinSigns (last : Option Token) : List SpannedToken → List SpannedToken
  | [] => []
  | [t] => [t]
  | (t, s) :: (u, r) :: rest =>
    match t, u with
    | .symbol .minus, .literal l =>
      match if last.any Token.endsOperand ∨ s.stop ≠ r.start then none else l.negated? with
      | some k => (.literal k, s.through r) :: joinSigns (some (.literal k)) rest
      | none => (t, s) :: joinSigns (some t) ((u, r) :: rest)
    | _, _ => (t, s) :: joinSigns (some t) ((u, r) :: rest)

end Lexer

/-- The tokens of a text. -/
def lex (source : String) : Except LexError (List SpannedToken) :=
  (Lexer.scanFrom 0 [] source.toList).map (Lexer.joinSigns none)

end ExprLang
