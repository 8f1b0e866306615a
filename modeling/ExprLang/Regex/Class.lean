import ExprLang.Regex.Escape

/-!
# Classes in brackets

A class lists characters, ranges and other classes between brackets. The lists can be combined by set operations,
which all bind equally and from the left. Classes nest; those that are open are kept in a list, the innermost one
first, so a class is read in one pass.
-/

namespace ExprLang

/-- An operation on the sets of a class. -/
inductive SetOp where
  | inter | diff | symmDiff
  deriving DecidableEq, Repr

def SetOp.apply : SetOp → CharSet → CharSet → CharSet
  | inter => .inter
  | diff => .diff
  | symmDiff => .symmDiff

/-- What a part of a class stands for, and how deep it nests. -/
structure ClassPart where
  set : CharSet
  depth : Nat

/-- A class that has been opened. -/
structure OpenClass where
  negated : Bool
  /-- what stands in front of the last operation -/
  left : Option (ClassPart × SetOp)
  /-- the parts behind the last operation, the last one first -/
  parts : List ClassPart

namespace OpenClass

def add (o : OpenClass) (p : ClassPart) : OpenClass := { o with parts := p :: o.parts }

/-- The parts behind the last operation as one. -/
def joined (o : OpenClass) : ClassPart where
  set := .unions (o.parts.map ClassPart.set)
  depth := match o.parts with
    | [] => 0
    | [p] => p.depth
    | ps => ps.foldl (fun d p => max d p.depth) 0 + 1

/-- All parts as one. -/
def whole (o : OpenClass) (flags : Flags) : ClassPart :=
  match o.left with
  | none => o.joined
  | some (l, op) => ⟨op.apply (flags.fold l.set) (flags.fold o.joined.set), max l.depth o.joined.depth + 1⟩

/-- Puts an operation behind all parts. -/
def operate (o : OpenClass) (flags : Flags) (op : SetOp) : OpenClass :=
  { o with left := some (o.whole flags, op), parts := [] }

/-- The class as a part of what is around it. -/
def close (o : OpenClass) (flags : Flags) : Checked ClassPart :=
  (flags.foldAndNegate o.negated (o.whole flags).set).map fun s => ⟨s, (o.whole flags).depth + 1⟩

end OpenClass

namespace ClassPart

/-! ### Named classes -/

/-- The characters of a class by name. -/
def named? (name : String) : Option CharSet :=
  match name with
  | "alnum" => some ⟨[⟨0x30, 0x39⟩, ⟨0x41, 0x5a⟩, ⟨0x61, 0x7a⟩]⟩
  | "alpha" => some ⟨[⟨0x41, 0x5a⟩, ⟨0x61, 0x7a⟩]⟩
  | "ascii" => some ⟨[⟨0x00, 0x7f⟩]⟩
  | "blank" => some ⟨[⟨0x09, 0x09⟩, ⟨0x20, 0x20⟩]⟩
  | "cntrl" => some ⟨[⟨0x00, 0x1f⟩, ⟨0x7f, 0x7f⟩]⟩
  | "digit" => some ⟨[⟨0x30, 0x39⟩]⟩
  | "graph" => some ⟨[⟨0x21, 0x7e⟩]⟩
  | "lower" => some ⟨[⟨0x61, 0x7a⟩]⟩
  | "print" => some ⟨[⟨0x20, 0x7e⟩]⟩
  | "punct" => some ⟨[⟨0x21, 0x2f⟩, ⟨0x3a, 0x40⟩, ⟨0x5b, 0x60⟩, ⟨0x7b, 0x7e⟩]⟩
  | "space" => some ⟨[⟨0x09, 0x0d⟩, ⟨0x20, 0x20⟩]⟩
  | "upper" => some ⟨[⟨0x41, 0x5a⟩]⟩
  | "word" => some ⟨[⟨0x30, 0x39⟩, ⟨0x41, 0x5a⟩, ⟨0x5f, 0x5f⟩, ⟨0x61, 0x7a⟩]⟩
  | "xdigit" => some ⟨[⟨0x30, 0x39⟩, ⟨0x41, 0x46⟩, ⟨0x61, 0x66⟩]⟩
  | _ => none

/-- Reads the name of a class behind a bracket, with colons around it: whether the class is negated, its characters,
and what follows. Anything else that stands there is read otherwise. -/
def readName? : List Char → Option (Bool × CharSet × List Char)
  | ':' :: cs =>
    let (negated, cs) := match cs with
      | '^' :: cs => (true, cs)
      | cs => (false, cs)
    match cs.dropWhile (· ≠ ':') with
    | ':' :: ']' :: rest => (named? (String.ofList (cs.takeWhile (· ≠ ':')))).map fun s => (negated, s, rest)
    | _ => none
  | _ => none

/-! ### Members -/

/-- A character as a member of a class. -/
def member (flags : Flags) (c : Char) (isByte : Bool) : Checked Char :=
  if .unicode ∈ flags || c.toNat < 128 then .ok c
  else .error (if isByte then .notUtf8 else .unicodeNotAllowed)

/-- What an atom stands for in a class. -/
def ofAtom (flags : Flags) : Atom → Checked CharSet
  | .literal c isByte => (member flags c isByte).map .singleton
  | .set s => .ok s
  | .look _ => .error .classInvalidEscape

/-- An atom at the end of a range. -/
def endPoint (flags : Flags) : Atom → Checked Char
  | .literal c isByte => member flags c isByte
  | _ => .error .classRangeEnd

/-- Reads a character or an escape. -/
def readAtom (flags : Flags) : List Char → Checked (Atom × List Char)
  | [] => .error .classUnclosed
  | '\\' :: cs => Atom.readEscape flags cs
  | c :: cs => .ok (.literal c false, cs)

/-- Whether the dash in front of `cs` stands between the ends of a range: no bracket closes behind it, and it does
not begin an operation. -/
def dashJoins (flags : Flags) (cs : List Char) : Bool :=
  match flags.skip cs with
  | ']' :: _ | '-' :: _ => false
  | _ => true

/-- Reads a character, an escape or a range. -/
def readMember (flags : Flags) (cs : List Char) : Checked (ClassPart × List Char) := do
  let (first, rest) ← readAtom flags cs
  let single : Checked (ClassPart × List Char) := do return (⟨← ofAtom flags first, 0⟩, rest)
  match flags.skip rest with
  | '-' :: behind =>
    if dashJoins flags behind then
      let (last, rest) ← readAtom flags (flags.skip behind)
      let a ← endPoint flags first
      let b ← endPoint flags last
      if a ≤ b then return (⟨.ofRange a.toNat b.toNat, 0⟩, rest) else throw .classInvalidRange
    else single
  | _ => single

/-! ### Brackets -/

/-- Reads what stands behind an opening bracket before anything has its usual meaning: the mark of negation, and
dashes or else a closing bracket as characters. -/
def readOpening (flags : Flags) (cs : List Char) : OpenClass × List Char :=
  let (negated, cs) := match flags.skip cs with
    | '^' :: cs => (true, cs)
    | cs => (false, cs)
  let (dashes, cs) := flags.run (· = '-') cs.length cs
  let parts : List ClassPart := dashes.map fun c => ⟨.singleton c, 0⟩
  match parts, cs with
  | [], ']' :: cs => (⟨negated, none, [⟨.singleton ']', 0⟩]⟩, cs)
  | _, _ => (⟨negated, none, parts⟩, cs)

/-- Reads a class to its end. `o` is the innermost open class and `outer` are those around it. Each step reads a
character at least, so as many steps as there are characters are enough. -/
def readFrom (flags : Flags) :
    (steps : Nat) → (o : OpenClass) → (outer : List OpenClass) → List Char → Checked (ClassPart × List Char)
  | 0, _, _, _ => .error .classUnclosed
  | steps + 1, o, outer, cs =>
    match flags.skip cs with
    | [] => .error .classUnclosed
    | '[' :: rest =>
      match readName? rest with
      | some (negated, set, rest) => do
        let s ← flags.foldAndNegate negated set
        readFrom flags steps (o.add ⟨s, 0⟩) outer rest
      | none =>
        let (inner, rest) := readOpening flags rest
        readFrom flags steps inner (o :: outer) rest
    | ']' :: rest => do
      let part ← o.close flags
      match outer with
      | [] => return (part, rest)
      | o :: outer => readFrom flags steps (o.add part) outer rest
    | '&' :: '&' :: rest => readFrom flags steps (o.operate flags .inter) outer rest
    | '-' :: '-' :: rest => readFrom flags steps (o.operate flags .diff) outer rest
    | '~' :: '~' :: rest => readFrom flags steps (o.operate flags .symmDiff) outer rest
    | cs => do
      let (part, rest) ← readMember flags cs
      readFrom flags steps (o.add part) outer rest

/-- Reads a class behind its opening bracket. -/
def read (flags : Flags) (cs : List Char) : Checked (ClassPart × List Char) :=
  let (o, rest) := readOpening flags cs
  readFrom flags cs.length o [] rest

end ClassPart

end ExprLang
