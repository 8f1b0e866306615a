import ExprLang.Unicode.CaseFolding
import ExprLang.Unicode.Property

/-!
# Sets without regard to case

Characters that are folded to the same character differ in case only. `foldCase` adds to a set all characters that
differ in case only from one of its members, `foldAsciiCase` does so among the letters of ASCII.
-/

namespace ExprLang

namespace Unicode

/-- The code points of a run with what each is folded to, from a run of code points `step` apart. -/
def foldRun (source step target : Nat) : Nat → List (Nat × Nat)
  | 0 => []
  | count + 1 => (source, target) :: foldRun (source + step) step (target + step) count

/-- The code points that are folded and what each is folded to, from the numbers of the table. -/
def foldPairs : List Nat → List (Nat × Nat)
  | source :: count :: step :: target :: rest => foldRun source step target count ++ foldPairs rest
  | _ => []

/-- The code points that are folded and what each is folded to. -/
def foldingPairs : List (Nat × Nat) := foldPairs (numbers foldings)

/-- The letters of ASCII that are folded. -/
def asciiPairs : List (Nat × Nat) := foldRun 65 1 97 26

/-- Adds to a set what differs from its members by a folding of the given pairs only. -/
def foldBy (pairs : List (Nat × Nat)) (s : CharSet) : CharSet :=
  let folded := s.union ⟨(pairs.filter fun p => s.contains p.1).map fun p => ⟨p.2, p.2⟩⟩
  folded.union ⟨(pairs.filter fun p => folded.contains p.2).map fun p => ⟨p.1, p.1⟩⟩

end Unicode

namespace CharSet

def foldCase (s : CharSet) : CharSet := Unicode.foldBy Unicode.foldingPairs s

def foldAsciiCase (s : CharSet) : CharSet := Unicode.foldBy Unicode.asciiPairs s

end CharSet

end ExprLang
