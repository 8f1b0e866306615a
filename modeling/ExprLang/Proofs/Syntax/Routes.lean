import ExprLang.Syntax.Parser

/-!
# Ways to make a chain

A chain can also be held as two lists, one of operands and one of operators, with nothing in the type that ties their
lengths: its parts are then found by index, which may fail, and by pairing the lists, which may lose operands. A
route is a way to make a chain, from two operands or from two lists and with any number of pushes behind. The two
lists that a route makes have at least two operands and one operator fewer (`Route.matched`), and they are those of
the chain that the same route makes (`Route.parts?_eq`). So both ways to begin agree, no index fails and no operand is
lost.
-/

namespace ExprLang
namespace Chain

variable {ε : Type}

/-- The chain with more operands at the end, each behind its operator. -/
def pushAll (c : Chain ε) (pairs : List (BinaryOp × ε)) : Chain ε := pairs.foldl (fun c p => c.push p.1 p.2) c

theorem pushAll_eq (c : Chain ε) (pairs : List (BinaryOp × ε)) :
    c.pushAll pairs = { c with rest := c.rest ++ pairs } := by
  induction pairs generalizing c with
  | nil => simp [pushAll]
  | cons p pairs ih =>
    have hstep : c.pushAll (p :: pairs) = (c.push p.1 p.2).pushAll pairs := rfl
    rw [hstep, ih]
    simp [push]

/-- Every chain is made by pushes. -/
theorem pushAll_pair (first : ε) (op : BinaryOp) (second : ε) (pairs : List (BinaryOp × ε)) :
    (pair first op second).pushAll pairs = ⟨first, op, second, pairs⟩ := by
  rw [pushAll_eq]
  rfl

/-! ### Two lists -/

/-- Operands and operators in two lists, of any lengths. -/
structure Parts (ε : Type) where
  operands : List ε
  operators : List BinaryOp

namespace Parts

/-- Two operands and the operator between them. -/
def pair (first : ε) (op : BinaryOp) (second : ε) : Parts ε := ⟨[first, second], [op]⟩

/-- The lists as they are, if there is an operator and one operand more than operators. -/
def fit? (p : Parts ε) : Option (Parts ε) :=
  if p.operators.isEmpty || p.operators.length + 1 != p.operands.length then none else some p

/-- One more operator and one more operand, each at the end of its list. -/
def push (p : Parts ε) (op : BinaryOp) (operand : ε) : Parts ε := ⟨p.operands ++ [operand], p.operators ++ [op]⟩

/-- The operand at index 0. -/
def first? (p : Parts ε) : Option ε := p.operands[0]?

/-- The operators paired with the operands from index 1 on, until one of the two lists ends. -/
def rest? (p : Parts ε) : Option (List (BinaryOp × ε)) :=
  if 1 ≤ p.operands.length then some (p.operators.zip (p.operands.drop 1)) else none

/-- From the start of the operand at index 0 to the end of the one at the last index. -/
def span? (p : Parts SpannedExpr) : Option Span := do
  let first ← p.operands[0]?
  let last ← p.operands[p.operands.length - 1]?
  return first.span.through last.span

/-- At least two operands, and one operator fewer. -/
structure Matched (p : Parts ε) : Prop where
  two_le : 2 ≤ p.operands.length
  one_fewer : p.operators.length + 1 = p.operands.length

theorem matched_iff {p : Parts ε} :
    p.Matched ↔ 1 ≤ p.operators.length ∧ p.operands.length = p.operators.length + 1 := by
  constructor
  · rintro ⟨htwo, hfewer⟩
    omega
  · rintro ⟨hone, hmore⟩
    exact ⟨by omega, by omega⟩

theorem matched_pair (first : ε) (op : BinaryOp) (second : ε) : (pair first op second).Matched :=
  ⟨Nat.le_refl 2, rfl⟩

theorem fit?_eq_some_iff {p q : Parts ε} : p.fit? = some q ↔ p.Matched ∧ p = q := by
  have hmatched : p.Matched ↔ ¬ (p.operators.isEmpty || p.operators.length + 1 != p.operands.length) = true := by
    obtain ⟨operands, _ | ⟨op, operators⟩⟩ := p
    · simp [matched_iff]
    · simpa [matched_iff] using eq_comm
  simp [fit?, hmatched]

/-- A push keeps the lengths as they must be. -/
theorem Matched.push {p : Parts ε} (h : p.Matched) (op : BinaryOp) (operand : ε) : (p.push op operand).Matched := by
  have htwo := h.two_le
  have hfewer := h.one_fewer
  have hoperands : (p.push op operand).operands.length = p.operands.length + 1 := by simp [Parts.push]
  have hoperators : (p.push op operand).operators.length = p.operators.length + 1 := by simp [Parts.push]
  exact ⟨by omega, by omega⟩

end Parts

/-! ### The lists of a chain -/

/-- The two lists of a chain. -/
def parts (c : Chain ε) : Parts ε := ⟨c.operands, c.operators⟩

theorem parts_push (c : Chain ε) (op : BinaryOp) (operand : ε) :
    (c.push op operand).parts = c.parts.push op operand := by
  rw [parts, operands_push, operators_push]
  rfl

theorem matched_parts (c : Chain ε) : c.parts.Matched := by
  constructor
  · simp [parts, operands, following]
  · exact c.length_operands.symm

theorem first?_parts (c : Chain ε) : c.parts.first? = some c.first := rfl

/-- Pairing the lists of a chain loses no operand. -/
theorem rest?_parts (c : Chain ε) : c.parts.rest? = some c.following := by
  have hzip : c.operators.zip (c.operands.drop 1) = c.following := by
    simp [operators, operands, List.zip_map']
  have hindex : 1 ≤ c.operands.length := by simp [operands]
  simp only [Parts.rest?, parts, hindex, hzip, ↓reduceIte]

/-- Lists that do not fit lose one. -/
example : (Parts.mk ['a', 'b', 'c'] [.add]).rest? = some [(.add, 'b')] := rfl

theorem span?_parts (c : Chain SpannedExpr) : c.parts.span? = some c.span := by
  have hfirst : c.operands[0]? = some c.first := rfl
  have hlast : c.operands[c.operands.length - 1]? = some c.last := by
    rw [← List.getLast?_eq_getElem?]
    exact c.getLast?_operands
  simp [Parts.span?, parts, hfirst, hlast, span]

/-- The chain of two lists whose lengths fit has these lists. -/
theorem parts_mk_zip (first : ε) (op : BinaryOp) (second : ε) {operands : List ε} {operators : List BinaryOp}
    (h : operands.length = operators.length) :
    (Chain.mk first op second (operators.zip operands)).parts = ⟨first :: second :: operands, op :: operators⟩ := by
  simp [parts, Chain.operands, Chain.operators, following, List.map_snd_zip, List.map_fst_zip, h]

theorem Parts.Matched.exists_chain {p : Parts ε} (h : p.Matched) : ∃ c : Chain ε, c.parts = p := by
  obtain ⟨htwo, hfewer⟩ := h
  -- shorter lists do not have these lengths
  match p with
  | ⟨first :: second :: operands, op :: operators⟩ =>
    exact ⟨⟨first, op, second, operators.zip operands⟩, parts_mk_zip first op second (by simpa using hfewer.symm)⟩

/-- Two lists make the chain that has these lists. -/
theorem ofParts?_eq_some_iff {operands : List ε} {operators : List BinaryOp} {c : Chain ε} :
    ofParts? operands operators = some c ↔ c.parts = ⟨operands, operators⟩ := by
  constructor
  · intro h
    unfold ofParts? at h
    split at h
    · split at h
      · rename_i hlength
        cases h
        exact parts_mk_zip _ _ _ hlength
      · cases h
    · cases h
  · intro h
    cases h
    simp [ofParts?, Chain.operands, Chain.operators, following, List.zip_map']

/-- Two lists make a chain exactly if their lengths fit. -/
theorem exists_ofParts?_iff {operands : List ε} {operators : List BinaryOp} :
    (∃ c, ofParts? operands operators = some c) ↔ (Parts.mk operands operators).Matched := by
  constructor
  · rintro ⟨c, hc⟩
    rw [← ofParts?_eq_some_iff.1 hc]
    exact c.matched_parts
  · intro h
    obtain ⟨c, hc⟩ := h.exists_chain
    exact ⟨c, ofParts?_eq_some_iff.2 hc⟩

/-- An operator too many is refused. -/
example : ofParts? ['a', 'b'] [.mul, .div] = none := rfl

theorem ofParts?_map_parts (operands : List ε) (operators : List BinaryOp) :
    (ofParts? operands operators).map parts = (Parts.mk operands operators).fit? := by
  apply Option.ext
  intro p
  rw [Option.map_eq_some_iff, Parts.fit?_eq_some_iff]
  constructor
  · rintro ⟨c, hc, rfl⟩
    have hparts := ofParts?_eq_some_iff.1 hc
    exact ⟨hparts ▸ c.matched_parts, hparts.symm⟩
  · rintro ⟨hmatched, rfl⟩
    obtain ⟨c, hc⟩ := exists_ofParts?_iff.2 hmatched
    exact ⟨c, hc, ofParts?_eq_some_iff.1 hc⟩

/-- Two lists make the chain of the first two operands and a push for each further one. -/
theorem ofParts?_eq_some_pushAll_iff {operands : List ε} {operators : List BinaryOp} {c : Chain ε} :
    ofParts? operands operators = some c ↔
      ∃ first op second furtherOperands furtherOperators,
        operands = first :: second :: furtherOperands ∧ operators = op :: furtherOperators ∧
        furtherOperands.length = furtherOperators.length ∧
        c = (pair first op second).pushAll (furtherOperators.zip furtherOperands) := by
  simp only [pushAll_pair]
  constructor
  · intro h
    have hparts := ofParts?_eq_some_iff.1 h
    obtain ⟨first, op, second, rest⟩ := c
    cases hparts
    exact ⟨first, op, second, _, _, rfl, rfl, by simp, by simp [List.zip_map']⟩
  · rintro ⟨first, op, second, furtherOperands, furtherOperators, rfl, rfl, hlength, rfl⟩
    exact ofParts?_eq_some_iff.2 (parts_mk_zip first op second hlength)

/-! ### Routes -/

/-- A way to make a chain: two operands or two lists to begin with, and any number of pushes. -/
inductive Route (ε : Type) where
  | pair (first : ε) (op : BinaryOp) (second : ε)
  | parts (operands : List ε) (operators : List BinaryOp)
  | push (r : Route ε) (op : BinaryOp) (operand : ε)

namespace Route

/-- The chain that a route makes, if its lists fit. -/
def chain? : Route ε → Option (Chain ε)
  | pair first op second => some (.pair first op second)
  | parts operands operators => ofParts? operands operators
  | push r op operand => r.chain?.map fun c => c.push op operand

/-- The two lists that a route makes, if they fit to begin with. -/
def parts? : Route ε → Option (Parts ε)
  | pair first op second => some (.pair first op second)
  | parts operands operators => (Parts.mk operands operators).fit?
  | push r op operand => r.parts?.map fun p => p.push op operand

/-- A route makes the lists of the chain that it makes. -/
theorem parts?_eq (r : Route ε) : r.parts? = r.chain?.map Chain.parts := by
  induction r with
  | pair first op second => rfl
  | parts operands operators => exact (ofParts?_map_parts operands operators).symm
  | push r op operand ih =>
    rw [parts?, ih, chain?, Option.map_map, Option.map_map]
    congr 1
    funext c
    exact (c.parts_push op operand).symm

/-- The lists that a route makes are matched: it begins with such lists, and each push keeps them so. -/
theorem matched (r : Route ε) {p : Parts ε} (h : r.parts? = some p) : p.Matched := by
  induction r generalizing p with
  | pair first op second =>
    cases h
    exact Parts.matched_pair first op second
  | parts operands operators =>
    obtain ⟨hmatched, rfl⟩ := Parts.fit?_eq_some_iff.1 h
    exact hmatched
  | push r op operand ih =>
    obtain ⟨q, hq, rfl⟩ := Option.map_eq_some_iff.1 h
    exact (ih hq).push op operand

end Route

/-- The ways to make a chain agree and keep the lengths of its lists. Two lists make a chain exactly if there is an
operator and one operand more than operators, and it is the chain of the first two operands with a push for each
further one. The two lists that a route makes have at least two operands and one operator fewer; their first and last
index are in range, and pairing them loses no operand: the first operand and the pairs give the lists back. All of
this is the same in the chain that the route makes. The chain of a run that is read is made by pushes. -/
theorem routes_agree :
    (∀ (operands : List SpannedExpr) (operators : List BinaryOp),
      ((∃ c, ofParts? operands operators = some c) ↔
        1 ≤ operators.length ∧ operands.length = operators.length + 1) ∧
      ∀ c, ofParts? operands operators = some c ↔
        ∃ first op second furtherOperands furtherOperators,
          operands = first :: second :: furtherOperands ∧ operators = op :: furtherOperators ∧
          furtherOperands.length = furtherOperators.length ∧
          c = (pair first op second).pushAll (furtherOperators.zip furtherOperands)) ∧
    (∀ r : Route SpannedExpr, r.parts? = r.chain?.map parts ∧ ∀ p, r.parts? = some p →
      2 ≤ p.operands.length ∧ p.operators.length + 1 = p.operands.length ∧
      ∃ c, r.chain? = some c ∧ c.parts = p ∧
        p.first? = some c.first ∧ p.rest? = some c.following ∧ p.span? = some c.span ∧
        p.operands = c.first :: c.following.map Prod.snd ∧ p.operators = c.following.map Prod.fst) ∧
    ∀ (level : Level) (first : SpannedExpr) (op : BinaryOp) (second : SpannedExpr)
      (rest : List (BinaryOp × SpannedExpr)),
      let c := (pair first op second).pushAll rest
      Parser.chained level first ((op, second) :: rest) = .chain c.span level c := by
  refine ⟨fun operands operators => ⟨?_, fun c => ofParts?_eq_some_pushAll_iff⟩, fun r => ⟨r.parts?_eq, ?_⟩, ?_⟩
  · rw [exists_ofParts?_iff, Parts.matched_iff]
  · intro p hp
    have hmatched : p.Matched := r.matched hp
    rw [r.parts?_eq] at hp
    obtain ⟨c, hc, rfl⟩ := Option.map_eq_some_iff.1 hp
    exact ⟨hmatched.two_le, hmatched.one_fewer, c, hc, rfl, c.first?_parts, c.rest?_parts, c.span?_parts, rfl, rfl⟩
  · intro level first op second rest c
    have hc : c = ⟨first, op, second, rest⟩ := pushAll_pair first op second rest
    rw [hc]
    rfl

/-- So it is with two lists and a push behind them. -/
theorem routes_agree_push :
    let one : SpannedExpr := .literal ⟨0, 1⟩ (.int 1)
    let x : SpannedExpr := .name ⟨4, 5⟩ "x"
    let y : SpannedExpr := .name ⟨8, 9⟩ "y"
    let r : Route SpannedExpr := .push (.parts [one, x] [.add]) .sub y
    let p : Parts SpannedExpr := ⟨[one, x, y], [.add, .sub]⟩
    r.parts? = some p ∧ 2 ≤ p.operands.length ∧ p.operators.length + 1 = p.operands.length ∧
    ∃ c, r.chain? = some c ∧ c.parts = p ∧
      c.first = one ∧ c.following = [(.add, x), (.sub, y)] ∧ c.span = ⟨0, 9⟩ := by
  intro one x y r p
  have hp : r.parts? = some p := rfl
  obtain ⟨htwo, hfewer, c, hc, hparts, hfirst, hrest, hspan, -, -⟩ := (routes_agree.2.1 r).2 p hp
  exact ⟨hp, htwo, hfewer, c, hc, hparts, (Option.some.inj hfirst).symm, (Option.some.inj hrest).symm,
    (Option.some.inj hspan).symm⟩

end Chain
end ExprLang
