import ExprLang.Regex.Basic
import ExprLang.Regex.Error
import ExprLang.Unicode.Folding

/-!
# Flags

Flags change what the parts of a pattern mean. Without the flag `u`, case and the classes `\d`, `\s`, `\w` concern
ASCII only, and whatever could match a part of a character is an error.
-/

namespace ExprLang

/-- A flag of a pattern. -/
inductive Flag where
  | ignoreCase | multiLine | dotAll | swapGreed | unicode | crlf | ignoreBlanks
  deriving DecidableEq, Repr

/-- The flags that are set. -/
abbrev Flags := List Flag

/-- The classes of characters that have a letter of their own. -/
inductive LetterClass where
  | digit | space | word
  deriving DecidableEq, Repr

/-- The flag of a letter. -/
def Flag.ofLetter? : Char → Option Flag
  | 'i' => some .ignoreCase
  | 'm' => some .multiLine
  | 's' => some .dotAll
  | 'U' => some .swapGreed
  | 'u' => some .unicode
  | 'R' => some .crlf
  | 'x' => some .ignoreBlanks
  | _ => none

namespace Flags

/-- The flags of a pattern that sets none. -/
def default : Flags := [.unicode]

/-- The flags with some of them set and others unset. -/
def change (flags : Flags) (set unset : List Flag) : Flags := set ++ flags.filter (· ∉ unset)

/-! ### Blanks -/

/-- What follows the blanks and the comments at the head of `cs`; `inComment` tells whether a comment is under way. -/
def afterBlanks (inComment : Bool) : List Char → List Char
  | [] => []
  | c :: cs =>
    if inComment then afterBlanks (c ≠ '\n') cs
    else if c = '#' then afterBlanks true cs
    else if Unicode.whiteSpace.has c then afterBlanks false cs
    else c :: cs

/-- What follows the blanks and comments at the head of `cs` where they are ignored. -/
def skip (flags : Flags) (cs : List Char) : List Char := if .ignoreBlanks ∈ flags then afterBlanks false cs else cs

/-- The characters from the head of `cs` on that satisfy `p`, and what follows them; ignored blanks may stand between
them. At most `count` are taken. -/
def run (flags : Flags) (p : Char → Bool) : Nat → List Char → List Char × List Char
  | 0, cs => ([], cs)
  | count + 1, cs =>
    match flags.skip cs with
    | [] => ([], [])
    | c :: rest =>
      if p c then
        let (more, behind) := flags.run p count rest
        (c :: more, behind)
      else ([], c :: rest)

/-! ### Sets -/

/-- The set of the characters that count as members of `s`. -/
def fold (flags : Flags) (s : CharSet) : CharSet :=
  if .ignoreCase ∉ flags then s else if .unicode ∈ flags then s.foldCase else s.foldAsciiCase

/-- The set, or the characters outside it, once case is dealt with. -/
def foldAndNegate (flags : Flags) (negated : Bool) (s : CharSet) : Checked CharSet :=
  if negated && .unicode ∉ flags then .error .notUtf8 else .ok ((flags.fold s).negateIf negated).tidy

/-- The characters that a dot stands for. -/
def dot (flags : Flags) : Checked CharSet :=
  if .unicode ∉ flags then .error .notUtf8
  else if .dotAll ∈ flags then .ok .full
  else .ok (CharSet.ofChars (if .crlf ∈ flags then ['\r', '\n'] else ['\n'])).compl.tidy

/-- The characters of a class with a letter. -/
def letterClass (flags : Flags) : LetterClass → CharSet
  | .digit => if .unicode ∈ flags then Unicode.decimalDigit else .ofRange 0x30 0x39
  | .space => if .unicode ∈ flags then Unicode.whiteSpace else ⟨[⟨0x09, 0x0d⟩, ⟨0x20, 0x20⟩]⟩
  | .word =>
    if .unicode ∈ flags then Unicode.word
    else ⟨[⟨0x30, 0x39⟩, ⟨0x41, 0x5a⟩, ⟨0x5f, 0x5f⟩, ⟨0x61, 0x7a⟩]⟩

/-- The characters of a class with a letter, or those outside it. Case does not matter to these classes. -/
def letterClassOrNot (flags : Flags) (negated : Bool) (k : LetterClass) : Checked CharSet :=
  if negated && .unicode ∉ flags then .error .notUtf8 else .ok ((flags.letterClass k).negateIf negated).tidy

/-! ### Places -/

def lineStart (flags : Flags) : Look := if .multiLine ∈ flags then .lineStart (.crlf ∈ flags) else .textStart

def lineEnd (flags : Flags) : Look := if .multiLine ∈ flags then .lineEnd (.crlf ∈ flags) else .textEnd

def wordEdge (flags : Flags) (edge : WordEdge) : Look := .word edge (flags.letterClass .word)

end Flags

end ExprLang
