import ExprLang.Regex.Class

/-!
# Patterns

The text of a regular expression is read from left to right with the flags that hold at each place. Groups that are
open are kept in a list, the innermost one first. Patterns that nest too deep and expressions that take too much
room are refused.
-/

namespace ExprLang

/-- What a part of a pattern stands for, and how deep it nests. -/
structure PatternPart where
  regex : Regex
  depth : Nat

/-- A group that has been opened, or the whole pattern. -/
structure OpenGroup where
  /-- the flags that hold around the group -/
  outerFlags : Flags
  /-- the alternatives in front of the last bar, the last one first -/
  branches : List PatternPart
  /-- the items behind the last bar, the last one first; an item that only sets flags stands for nothing -/
  items : List (Option PatternPart)

namespace OpenGroup

def new (outerFlags : Flags) : OpenGroup := ⟨outerFlags, [], []⟩

def add (g : OpenGroup) (item : Option PatternPart) : OpenGroup := { g with items := item :: g.items }

/-- The depth of parts that are put together, if there are at least two. -/
def depthOf : List Nat → Nat
  | [] => 0
  | [d] => d
  | ds => ds.foldl max 0 + 1

/-- The items behind the last bar as one. -/
def branch (g : OpenGroup) : PatternPart where
  regex := .concat (g.items.reverse.filterMap fun item => item.map PatternPart.regex)
  depth := depthOf (g.items.map fun item => (item.map PatternPart.depth).getD 0)

/-- Begins another alternative. -/
def bar (g : OpenGroup) : OpenGroup := { g with branches := g.branch :: g.branches, items := [] }

/-- The alternatives as one. -/
def whole (g : OpenGroup) : PatternPart where
  regex := .oneOf (g.branches.reverse.map PatternPart.regex) g.branch.regex
  depth := depthOf (g.branch.depth :: g.branches.map PatternPart.depth)

/-- Puts a repetition around the last item. -/
def repeatLast (g : OpenGroup) (least : Nat) (most : Option Nat) : Checked OpenGroup :=
  match g.items with
  | some p :: items => .ok { g with items := some ⟨.repeated least most p.regex, p.depth + 1⟩ :: items }
  | _ => .error .nothingToRepeat

end OpenGroup

/-- Where the reading of a pattern stands. -/
structure PatternState where
  flags : Flags
  group : OpenGroup
  outer : List OpenGroup
  /-- the names that groups have so far -/
  names : List (List Char)

namespace PatternState

def add (st : PatternState) (r : Regex) (depth : Nat) : PatternState :=
  { st with group := st.group.add (some ⟨r, depth⟩) }

/-! ### Repetitions -/

/-- Reads a decimal number that may have blanks around it. -/
def readCount (flags : Flags) (cs : List Char) : Checked (Nat × List Char) :=
  let cs := cs.dropWhile Unicode.whiteSpace.has
  let (digits, rest) := flags.run Char.isDigit cs.length cs
  match Digits.value? 10 digits with
  | none => .error .countMissing
  | some n => if n < UInt32.size then .ok (n, rest.dropWhile Unicode.whiteSpace.has) else .error .countTooLarge

/-- Reads the bounds of a repetition behind the opening brace, to the closing one. -/
def readBounds (flags : Flags) (cs : List Char) : Checked (Nat × Option Nat × List Char) := do
  let (least, rest) ← readCount flags (flags.skip cs)
  match flags.skip rest with
  | '}' :: rest => return (least, some least, rest)
  | ',' :: rest =>
    match flags.skip rest with
    | '}' :: rest => return (least, none, rest)
    | rest =>
      let (most, rest) ← readCount flags rest
      match flags.skip rest with
      | '}' :: rest => if least ≤ most then return (least, some most, rest) else throw .countInvalid
      | _ => throw .countUnclosed
  | _ => throw .countUnclosed

/-- What follows the mark that makes a repetition lazy, if it is there. It does not change what is matched. -/
def afterLazy : List Char → List Char
  | '?' :: cs => cs
  | cs => cs

/-! ### Groups -/

/-- Whether a group may have the name. -/
def validName : List Char → Bool
  | [] => false
  | c :: cs =>
    (c = '_' || Unicode.alphabetic.has c) &&
      cs.all fun c => c = '_' || c = '.' || c = '[' || c = ']' || Unicode.alphanumeric.has c

/-- Opens a group. -/
def openGroup (st : PatternState) (flags : Flags) : PatternState :=
  { st with flags := flags, group := .new st.flags, outer := st.group :: st.outer }

/-- Reads the name of a group up to the closing angle bracket, and opens the group. -/
def openNamed (st : PatternState) (cs : List Char) : Checked (PatternState × List Char) :=
  let name := cs.takeWhile (· ≠ '>')
  match cs.drop name.length with
  | [] => .error .captureNameUnclosed
  | _ :: rest =>
    if name.isEmpty then .error .captureNameMissing
    else if !validName name then .error .captureNameInvalid
    else if st.names.contains name then .error .captureNameRepeated
    else .ok ({ st.openGroup st.flags with names := name :: st.names }, rest)

/-- The flags that a text sets and unsets up to a colon or a closing parenthesis, and what begins there. `negated`
tells whether the dash has been read, `dangling` whether it was the last character. -/
def readFlags (set unset : List Flag) (negated dangling : Bool) :
    List Char → Checked (List Flag × List Flag × List Char)
  | [] => .error .flagsUnclosed
  | c :: cs =>
    if c = ':' || c = ')' then if dangling then .error .flagAfterDash else .ok (set, unset, c :: cs)
    else if c = '-' then
      if negated then .error .flagDashRepeated else readFlags set unset true true cs
    else
      match Flag.ofLetter? c with
      | none => .error .flagUnknown
      | some f =>
        if f ∈ set || f ∈ unset then .error .flagRepeated
        else if negated then readFlags set (f :: unset) negated false cs
        else readFlags (f :: set) unset negated false cs

/-- Reads what stands behind a question mark at the head of a group: flags for the group, or for all that follows
in the group around. -/
def readFlagGroup (st : PatternState) (cs : List Char) : Checked (PatternState × List Char) := do
  if cs.isEmpty then throw .groupUnclosed
  let (set, unset, rest) ← readFlags [] [] false false cs
  let flags := st.flags.change set unset
  match rest with
  | ':' :: rest => return (st.openGroup flags, rest)
  | rest =>
    if set.isEmpty && unset.isEmpty then throw .nothingToRepeat
    else return ({ st with flags := flags, group := st.group.add none }, rest.drop 1)

/-- Reads the head of a group behind the opening parenthesis. -/
def readGroup (st : PatternState) (cs : List Char) : Checked (PatternState × List Char) :=
  match st.flags.skip cs with
  | '?' :: '=' :: _ | '?' :: '!' :: _ | '?' :: '<' :: '=' :: _ | '?' :: '<' :: '!' :: _ => .error .lookAround
  | '?' :: 'P' :: '<' :: rest | '?' :: '<' :: rest => st.openNamed rest
  | '?' :: rest => st.readFlagGroup rest
  | rest => .ok (st.openGroup st.flags, rest)

/-- Closes the innermost group. -/
def closeGroup (st : PatternState) : Checked PatternState :=
  match st.outer with
  | [] => .error .groupUnopened
  | g :: outer =>
    let p := st.group.whole
    .ok { st with flags := st.group.outerFlags, group := g.add (some ⟨p.regex, p.depth + 1⟩), outer := outer }

/-! ### Items -/

/-- What an atom stands for outside classes. -/
def ofAtom (flags : Flags) : Atom → Checked Regex
  | .literal c isByte =>
    if isByte && .unicode ∉ flags && 128 ≤ c.toNat then .error .notUtf8
    else .ok (.one (flags.fold (.singleton c)))
  | .set s => .ok (.one s)
  | .look l => .ok (.look l)

/-- Reads the next item, of which `c` is the first character and `cs` what follows it. -/
def step (st : PatternState) (c : Char) (cs : List Char) : Checked (PatternState × List Char) := do
  let flags := st.flags
  match c with
  | '(' => st.readGroup cs
  | ')' => return (← st.closeGroup, cs)
  | '|' => return ({ st with group := st.group.bar }, cs)
  | '[' =>
    let (part, rest) ← ClassPart.read flags cs
    return (st.add (.one part.set) part.depth, rest)
  | '?' => return ({ st with group := ← st.group.repeatLast 0 (some 1) }, afterLazy cs)
  | '*' => return ({ st with group := ← st.group.repeatLast 0 none }, afterLazy cs)
  | '+' => return ({ st with group := ← st.group.repeatLast 1 none }, afterLazy cs)
  | '{' =>
    let (least, most, rest) ← readBounds flags cs
    return ({ st with group := ← st.group.repeatLast least most }, afterLazy (flags.skip rest))
  | '.' => return (st.add (.one (← flags.dot)) 0, cs)
  | '^' => return (st.add (.look flags.lineStart) 0, cs)
  | '$' => return (st.add (.look flags.lineEnd) 0, cs)
  | '\\' =>
    let (atom, rest) ← Atom.readEscape flags cs
    return (st.add (← ofAtom flags atom) 0, rest)
  | c => return (st.add (← ofAtom flags (.literal c false)) 0, cs)

/-- Reads a pattern to its end. Each step reads a character at least, so as many steps as there are characters are
enough. -/
def readFrom : (steps : Nat) → PatternState → List Char → Checked PatternState
  | 0, st, _ => .ok st
  | steps + 1, st, cs =>
    match st.flags.skip cs with
    | [] => .ok st
    | c :: cs => do
      let (st, rest) ← st.step c cs
      readFrom steps st rest

def start : PatternState := ⟨.default, .new .default, [], []⟩

end PatternState

namespace Regex

/-- How deep patterns may nest. -/
def nestingLimit : Nat := 250

/-- How much room expressions may take, in bytes. -/
def weightLimit : Nat := 10485760

/-- The regular expression that a pattern spells. -/
def parse (pattern : String) : Checked Regex := do
  let cs := pattern.toList
  let st ← PatternState.start.readFrom cs.length cs
  if !st.outer.isEmpty then throw .groupUnclosed
  let p := st.group.whole
  if nestingLimit < p.depth then throw (.nestedTooDeep nestingLimit)
  if weightLimit < p.regex.weight then throw (.tooLarge weightLimit)
  return p.regex

/-- The test of texts that a pattern spells, or why it spells none. -/
def matcher (pattern : String) : Except String (String → Bool) :=
  match parse pattern with
  | .ok r => .ok r.occurs
  | .error e => .error e.text

end Regex

end ExprLang
