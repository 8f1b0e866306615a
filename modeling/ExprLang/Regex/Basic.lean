import ExprLang.Unicode.Property

/-!
# Regular expressions

A regular expression describes stretches of a text, each between two places. A place knows the characters next to
it, so that an expression can ask for the start of a line or for the edge of a word.

`derive` gives what an expression leaves to be matched once a character has been read, as alternatives. `occurs`
reads a text once and keeps all alternatives at the same time, so its time does not grow with the ways to match.
-/

namespace ExprLang

/-- A place in a text, with the characters in front of it and behind it. -/
structure Place where
  before : Option Char
  after : Option Char
  deriving DecidableEq, Repr

/-- What can be asked about words at a place. -/
inductive WordEdge where
  /-- a word begins or ends -/
  | any
  /-- no word begins or ends -/
  | none
  | start
  | stop
  /-- no word character is in front -/
  | startHalf
  /-- no word character is behind -/
  | stopHalf
  deriving DecidableEq, Repr

/-- A condition on a place. -/
inductive Look where
  | textStart
  | textEnd
  /-- where `crlf` is set, a carriage return ends a line as well, alone or with the line feed behind it -/
  | lineStart (crlf : Bool)
  | lineEnd (crlf : Bool)
  | word (edge : WordEdge) (chars : CharSet)
  deriving DecidableEq, Repr

namespace Look

/-- Whether the place meets the condition. -/
def holds : Look → Place → Bool
  | textStart, p => p.before.isNone
  | textEnd, p => p.after.isNone
  | lineStart crlf, p =>
    p.before.all fun c => c = '\n' || (crlf && c = '\r' && p.after ≠ some '\n')
  | lineEnd crlf, p =>
    p.after.all fun c => if crlf then c = '\r' || (c = '\n' && p.before ≠ some '\r') else c = '\n'
  | word edge chars, p =>
    let before := p.before.any chars.has
    let after := p.after.any chars.has
    match edge with
    | .any => before != after
    | .none => before == after
    | .start => !before && after
    | .stop => before && !after
    | .startHalf => !before
    | .stopHalf => !after

end Look

/-- A regular expression. -/
inductive Regex where
  /-- the empty stretch -/
  | empty
  /-- the empty stretch at a place that meets a condition -/
  | look (l : Look)
  /-- one character of a set -/
  | one (s : CharSet)
  /-- one stretch behind the other -/
  | cat (r s : Regex)
  /-- a stretch of one or of the other -/
  | alt (r s : Regex)
  /-- stretches of `r` in a row, at least `least` of them, and no more than `most` where that is given -/
  | rep (least : Nat) (most : Option Nat) (r : Regex)
  deriving DecidableEq, Repr

namespace Regex

/-! ### Building -/

/-- No stretch at all. -/
def never : Regex := one .empty

/-- One behind the other, without empty parts. -/
def append : Regex → Regex → Regex
  | empty, s => s
  | r, empty => r
  | r, s => cat r s

/-- All behind one another. -/
def concat (rs : List Regex) : Regex := rs.foldr append empty

/-- One of the given expressions, the last one being `r`. -/
def oneOf (rs : List Regex) (r : Regex) : Regex := rs.foldr alt r

/-- Whether the empty stretch matches at all places. -/
def isOptional : Regex → Bool
  | empty => true
  | look _ => false
  | one _ => false
  | cat r s => r.isOptional && s.isOptional
  | alt r s => r.isOptional || s.isOptional
  | rep least _ r => least = 0 || r.isOptional

/-- Repetition. Stretches of an optional expression can be left out, so no number of them is required. -/
def repeated (least : Nat) (most : Option Nat) (r : Regex) : Regex :=
  rep (if r.isOptional then 0 else least) most r

/-! ### Matching -/

/-- Whether the empty stretch matches at a place. -/
def nullable (p : Place) : Regex → Bool
  | empty => true
  | look l => l.holds p
  | one _ => false
  | cat r s => r.nullable p && s.nullable p
  | alt r s => r.nullable p || s.nullable p
  | rep least _ r => least = 0 || r.nullable p

/-- What is left to be matched when the character `c` is read at the place `p`. Of a repetition the stretches in
front of the one that takes the character may be empty, where the place allows it. -/
def derive (p : Place) (c : Char) : Regex → List Regex
  | empty => []
  | look _ => []
  | one s => if s.has c then [empty] else []
  | cat r s => (r.derive p c).map (append · s) ++ (if r.nullable p then s.derive p c else [])
  | alt r s => r.derive p c ++ s.derive p c
  | rep least most r =>
    if most = some 0 then []
    else
      let skips := if r.nullable p then max least 1 else 1
      (List.range skips).flatMap fun k =>
        (r.derive p c).map (append · (rep (least - 1 - k) (most.map (· - 1 - k)) r))

/-- Whether a stretch that begins at the place in front of `cs`, or that is under way with one of `states` left to
be matched, is a match of `r`. -/
def occursFrom (r : Regex) (states : List Regex) (before : Option Char) : List Char → Bool
  | [] => (r :: states).any (nullable ⟨before, none⟩)
  | c :: cs =>
    let p : Place := ⟨before, some c⟩
    (r :: states).any (nullable p) || occursFrom r (((r :: states).flatMap (derive p c)).eraseDups) (some c) cs

/-- Whether some stretch of the text matches. -/
def occurs (r : Regex) (text : String) : Bool := r.occursFrom [] none text.toList

/-! ### Size -/

/-- The number of bytes that a code point takes. -/
def codeLength (n : Nat) : Nat := if n < 0x80 then 1 else if n < 0x800 then 2 else if n < 0x10000 then 3 else 4

/-- The room that the automaton for one character of a range takes: a step for each byte of a single character, and
two steps for each number of bytes that the characters of a longer range have. -/
def rangeWeight (r : CodeRange) : Nat :=
  if r.first = r.last then 32 * codeLength r.first else 64 * (codeLength r.last - codeLength r.first + 1)

/-- The room that the automaton for an expression takes, in bytes. -/
def weight : Regex → Nat
  | empty => 32
  | look _ => 32
  | one s => s.ranges.foldl (fun n r => n + rangeWeight r) 0
  | cat r s => r.weight + s.weight
  | alt r s => r.weight + s.weight + 8
  | rep least most r =>
    match most with
    | none => max least 1 * r.weight + 40
    | some most => least * r.weight + (most - least) * (r.weight + 40) + 32

end Regex

end ExprLang
