import ExprLang.Proofs.Eval.Errors
import ExprLang.Proofs.Value.Order

/-!
# The relational operators

The values of kinds that are ordered among one another lie on a line (`exists_line`): numbers of all kinds on that of
the rational numbers between the infinities, and texts, byte strings and booleans each on a line of their own. Only
not-a-number has no place there. All relational operators speak of these places (`Line.relate_iff`), equality among
them, although it is computed in another way than the order; so they fit together (`Coherent`).
-/

namespace ExprLang

namespace Operation

variable {k l : Kind} {a b d : Value}

/-! ### Kinds that are ordered -/

theorem areOrdered_iff : areOrdered k l = true ↔
    (k.isNumeric = true ∧ l.isNumeric = true) ∨ (k = l ∧ (k = .string ∨ k = .bytes ∨ k = .bool)) := by
  simp [areOrdered, or_assoc]

theorem areOrdered_symm (h : areOrdered k l = true) : areOrdered l k = true := by
  rw [areOrdered_iff] at h ⊢
  rcases h with ⟨hk, hl⟩ | ⟨rfl, hk⟩
  · exact .inl ⟨hl, hk⟩
  · exact .inr ⟨rfl, hk⟩

theorem areOrdered_trans {m : Kind} (h : areOrdered k l = true) (h' : areOrdered l m = true) :
    areOrdered k m = true := by
  rw [areOrdered_iff] at h
  rcases h with ⟨hk, hl⟩ | ⟨rfl, -⟩
  · rw [areOrdered_iff] at h' ⊢
    rcases h' with ⟨-, hm⟩ | ⟨rfl, -⟩
    · exact .inl ⟨hk, hm⟩
    · exact .inl ⟨hk, hl⟩
  · exact h'

theorem areOrdered_self (h : areOrdered k l = true) : areOrdered k k = true := areOrdered_trans h (areOrdered_symm h)

end Operation

open Operation (areOrdered relate)

/-- The value is the double that is not a number. -/
def Value.IsNaN (v : Value) : Prop := ∃ f, v = .float f ∧ f.isNaN = true

/-! ### Lines -/

/-- A linear order in which the values lie that are ordered together with those of a kind. -/
structure Line (k : Kind) where
  Point : Type
  order : LinearOrder Point
  place? : Value → Option Point
  compare?_eq (a b : Value) : areOrdered k a.kind = true → areOrdered k b.kind = true →
    a.compare? b = (place? a).bind fun p => (place? b).map fun q => cmp p q
  equals_iff (a b : Value) : areOrdered k a.kind = true → areOrdered k b.kind = true →
    (a.equals b = true ↔ ∃ p, place? a = some p ∧ place? b = some p)
  place?_eq_none_iff (a : Value) : areOrdered k a.kind = true → (place? a = none ↔ a.IsNaN)

attribute [instance] Line.order

namespace Line

variable {k : Kind} {a b : Value}

private theorem exists_line_numbers (hk : k.isNumeric = true) : Nonempty (Line k) := by
  have hnumeric {l : Kind} (h : areOrdered k l = true) : l.isNumeric = true := by
    rw [Operation.areOrdered_iff] at h
    rcases h with ⟨-, hl⟩ | ⟨rfl, -⟩
    · exact hl
    · exact hk
  exact ⟨{
    Point := ExtendedRat
    order := inferInstance
    place? := Value.extended?
    compare?_eq := fun _ _ ha hb => Value.compare?_eq (hnumeric ha) (hnumeric hb)
    equals_iff := fun _ _ ha hb => by
      rw [Value.equals_iff_compare? (hnumeric ha) (hnumeric hb),
        Value.compare?_eq_some_eq_iff (hnumeric ha) (hnumeric hb)]
    place?_eq_none_iff := fun _ ha => Value.extended?_eq_none_iff (hnumeric ha) }⟩

/-- Values of a kind that is ordered in itself lie as what they are made of. -/
private theorem exists_line_payload {α : Type} [LinearOrder α] (make : α → Value) (payload? : Value → Option α)
    (hpayload : ∀ x, payload? (make x) = some x) (hmake : ∀ a, areOrdered k a.kind = true → ∃ x, a = make x)
    (hcompare : ∀ x y, (make x).compare? (make y) = some (cmp x y))
    (hequals : ∀ x y, (make x).equals (make y) = true ↔ x = y) (hfloat : ∀ x f, make x ≠ .float f) :
    Nonempty (Line k) := by
  refine ⟨{
    Point := α
    order := inferInstance
    place? := payload?
    compare?_eq := fun a b ha hb => ?_
    equals_iff := fun a b ha hb => ?_
    place?_eq_none_iff := fun a ha => ?_ }⟩
  · obtain ⟨x, rfl⟩ := hmake a ha
    obtain ⟨y, rfl⟩ := hmake b hb
    rw [hcompare, hpayload, hpayload]
    rfl
  · obtain ⟨x, rfl⟩ := hmake a ha
    obtain ⟨y, rfl⟩ := hmake b hb
    simp [hequals, hpayload, eq_comm]
  · obtain ⟨x, rfl⟩ := hmake a ha
    simp [hpayload, Value.IsNaN, hfloat]

private theorem compareOfLessAndEq_eq_cmp {α : Type} [LinearOrder α] {_ : DecidableEq α} (x y : α)
    {_ : Decidable (x < y)} : compareOfLessAndEq x y = cmp x y := by
  rcases lt_trichotomy x y with h | rfl | h
  · rw [compareOfLessAndEq, if_pos h, (cmp_eq_lt_iff x y).mpr h]
  · rw [compareOfLessAndEq, if_neg (lt_irrefl x), if_pos rfl, cmp_self_eq_eq]
  · rw [compareOfLessAndEq, if_neg h.not_gt, if_neg h.ne', (cmp_eq_gt_iff x y).mpr h]

/-- The values that are ordered with others lie on a line. -/
theorem exists_line {l : Kind} (h : areOrdered k l = true) : Nonempty (Line k) := by
  have hself := Operation.areOrdered_self h
  cases k with
  | null | list | map => cases hself
  | int | uint | float => exact exists_line_numbers rfl
  | bool =>
    refine exists_line_payload .bool Value.bool? (fun _ => rfl) (fun a ha => ?_)
      (fun x y => congrArg some (compareOfLessAndEq_eq_cmp x y)) (fun x y => by simp [Value.equals])
      (fun _ _ h => by cases h)
    cases a <;> simp [areOrdered, Value.kind, Kind.isNumeric] at ha
    exact ⟨_, rfl⟩
  | string =>
    refine exists_line_payload .string Value.string? (fun _ => rfl) (fun a ha => ?_)
      (fun x y => congrArg some (compareOfLessAndEq_eq_cmp x y)) (fun x y => by simp [Value.equals])
      (fun _ _ h => by cases h)
    cases a <;> simp [areOrdered, Value.kind, Kind.isNumeric] at ha
    exact ⟨_, rfl⟩
  | bytes =>
    have : IsStrictTotalOrder (List UInt8) (· < ·) := {}
    let : LinearOrder (List UInt8) := linearOrderOfSTO (· < ·)
    refine exists_line_payload .bytes Value.bytes? (fun _ => rfl) (fun a ha => ?_)
      (fun x y => congrArg some (compareOfLessAndEq_eq_cmp x y)) (fun x y => by simp [Value.equals])
      (fun _ _ h => by cases h)
    cases a <;> simp [areOrdered, Value.kind, Kind.isNumeric] at ha
    exact ⟨_, rfl⟩

theorem compare?_eq_some_iff (L : Line k) {o : Ordering} (ha : areOrdered k a.kind = true)
    (hb : areOrdered k b.kind = true) :
    a.compare? b = some o ↔ ∃ p q, L.place? a = some p ∧ L.place? b = some q ∧ cmp p q = o := by
  simp only [L.compare?_eq a b ha hb, Option.bind_eq_some_iff, Option.map_eq_some_iff]
  constructor
  · rintro ⟨p, hp, q, hq, ho⟩
    exact ⟨p, q, hp, hq, ho⟩
  · rintro ⟨p, q, hp, hq, ho⟩
    exact ⟨p, hp, q, hq, ho⟩

end Line

/-! ### Operators -/

namespace BinaryOp

/-- The operators that ask for an order. -/
def orderings : List BinaryOp := [lt, le, gt, ge]

/-- The ordering that says of two values what the given one says of them the other way round. -/
def turned : BinaryOp → BinaryOp
  | lt => gt
  | le => ge
  | gt => lt
  | ge => le
  | op => op

/-- The relation of two points that an operator stands for. -/
def Holds {P : Type} [LinearOrder P] : BinaryOp → P → P → Prop
  | lt, p, q => p < q
  | le, p, q => p ≤ q
  | gt, p, q => q < p
  | ge, p, q => q ≤ p
  | eq, p, q => p = q
  | _, _, _ => False

end BinaryOp

namespace Operation

open BinaryOp (orderings)

variable {k : Kind} {a b d : Value} {op : BinaryOp}

/-- On a line an operator answers whether both values have a place and the places are in its relation. -/
theorem relate_iff (L : Line k) (ha : areOrdered k a.kind = true) (hb : areOrdered k b.kind = true)
    (hop : op ∈ .eq :: orderings) : ∃ t, relate op a b = .ok t ∧
      (t = true ↔ ∃ p q, L.place? a = some p ∧ L.place? b = some q ∧ op.Holds p q) := by
  have horder (op : BinaryOp) : order op a b = .ok (a.compare? b) := if_pos (areOrdered_trans (areOrdered_symm ha) hb)
  have hcompare {o : Ordering} := @Line.compare?_eq_some_iff k a b L o ha hb
  simp only [orderings, List.mem_cons, List.not_mem_nil, or_false] at hop
  rcases hop with rfl | rfl | rfl | rfl | rfl
  · refine ⟨a.equals b, rfl, ?_⟩
    rw [L.equals_iff a b ha hb]
    simp [BinaryOp.Holds]
  · refine ⟨a.compare? b == some .lt, by rw [relate, horder]; rfl, ?_⟩
    simp only [beq_iff_eq, hcompare, cmp_eq_lt_iff, BinaryOp.Holds]
  · refine ⟨a.compare? b == some .lt || a.compare? b == some .eq, by rw [relate, horder]; rfl, ?_⟩
    simp only [Bool.or_eq_true, beq_iff_eq, hcompare, cmp_eq_lt_iff, cmp_eq_eq_iff, BinaryOp.Holds, le_iff_lt_or_eq,
      and_or_left, exists_or]
  · refine ⟨a.compare? b == some .gt, by rw [relate, horder]; rfl, ?_⟩
    simp only [beq_iff_eq, hcompare, cmp_eq_gt_iff, BinaryOp.Holds]
  · refine ⟨a.compare? b == some .gt || a.compare? b == some .eq, by rw [relate, horder]; rfl, ?_⟩
    simp only [Bool.or_eq_true, beq_iff_eq, hcompare, cmp_eq_gt_iff, cmp_eq_eq_iff, BinaryOp.Holds, le_iff_lt_or_eq',
      and_or_left, exists_or]

theorem failsAs_of_not_areOrdered (h : ¬ areOrdered a.kind b.kind = true) (hop : op ∈ orderings) :
    FailsAs .typeMismatch (relate op a b) := by
  have horder (op : BinaryOp) : order op a b = .error (.unordered op a.kind b.kind) := if_neg h
  simp only [orderings, List.mem_cons, List.not_mem_nil, or_false] at hop
  rcases hop with rfl | rfl | rfl | rfl
  all_goals exact ⟨_, by rw [relate, horder]; rfl, rfl⟩

theorem areOrdered_of_relate {t : Bool} (h : relate op a b = .ok t) (hop : op ∈ orderings) :
    areOrdered a.kind b.kind = true := by
  by_contra hnot
  have hfails := failsAs_of_not_areOrdered hnot hop
  rw [h] at hfails
  exact not_failsAs_ok _ _ hfails

/-! ### Coherence -/

theorem turned_mem_orderings (hop : op ∈ orderings) : op.turned ∈ orderings := by
  revert hop
  cases op <;> decide

section Points

variable {P : Type} [LinearOrder P] {p q r : P}

theorem holds_turned_iff (hop : op ∈ orderings) : op.turned.Holds q p ↔ op.Holds p q := by
  simp only [orderings, List.mem_cons, List.not_mem_nil, or_false] at hop
  rcases hop with rfl | rfl | rfl | rfl <;> rfl

theorem holds_trans (hop : op ∈ orderings) (h : op.Holds p q) (h' : op.Holds q r) : op.Holds p r := by
  simp only [orderings, List.mem_cons, List.not_mem_nil, or_false] at hop
  rcases hop with rfl | rfl | rfl | rfl
  · exact lt_trans h h'
  · exact le_trans h h'
  · exact lt_trans h' h
  · exact le_trans h' h

/-- Of two points one is less, or both are the same, or the other is less. -/
theorem count_of_trichotomy {less equal greater : Bool} (hless : less = true ↔ p < q) (hequal : equal = true ↔ p = q)
    (hgreater : greater = true ↔ q < p) : [less, equal, greater].count true = 1 := by
  rcases lt_trichotomy p q with h | h | h
  · obtain rfl : less = true := hless.mpr h
    obtain rfl : equal = false := Bool.eq_false_iff.mpr (mt hequal.mp h.ne)
    obtain rfl : greater = false := Bool.eq_false_iff.mpr (mt hgreater.mp h.not_gt)
    rfl
  · obtain rfl : less = false := Bool.eq_false_iff.mpr (mt hless.mp h.not_lt)
    obtain rfl : equal = true := hequal.mpr h
    obtain rfl : greater = false := Bool.eq_false_iff.mpr (mt hgreater.mp h.not_gt)
    rfl
  · obtain rfl : less = false := Bool.eq_false_iff.mpr (mt hless.mp h.not_gt)
    obtain rfl : equal = false := Bool.eq_false_iff.mpr (mt hequal.mp h.ne')
    obtain rfl : greater = true := hgreater.mpr h
    rfl

end Points

/-- Both values are numbers, or both are texts, byte strings or booleans. -/
def Comparable (a b : Value) : Prop :=
  (a.kind.isNumeric = true ∧ b.kind.isNumeric = true) ∨
    (a.kind = b.kind ∧ (a.kind = .string ∨ a.kind = .bytes ∨ a.kind = .bool))

/-- What the relational operators say of two values fits together. -/
structure Coherent (a b : Value) : Prop where
  /-- an ordering says of the values what the turned one says of them the other way round, or both fail -/
  turned : ∀ op ∈ orderings, (∃ t, relate op a b = .ok t ∧ relate op.turned b a = .ok t) ∨
    (FailsAs .typeMismatch (relate op a b) ∧ FailsAs .typeMismatch (relate op.turned b a))
  /-- the orderings fail together -/
  fails_iff : ∀ op ∈ orderings, FailsAs .typeMismatch (relate op a b) ↔ ¬ Comparable a b
  /-- where they do not fail, one of the strict orderings and equality holds, and only one, or none if one of the values
  is not a number; the other orderings are a strict one or equality -/
  answers : Comparable a b → ∃ less equal greater,
    relate .lt a b = .ok less ∧ relate .eq a b = .ok equal ∧ relate .gt a b = .ok greater ∧
    relate .le a b = .ok (less || equal) ∧ relate .ge a b = .ok (greater || equal) ∧
    (¬ (a.IsNaN ∨ b.IsNaN) → [less, equal, greater].count true = 1) ∧
    (a.IsNaN ∨ b.IsNaN → [less, equal, greater].count true = 0)
  /-- inequality is the negation of equality -/
  unequal : ∃ t, relate .eq a b = .ok t ∧ relate .ne a b = .ok !t
  /-- the orderings are transitive -/
  transitive : ∀ d, ∀ op ∈ orderings, relate op a b = .ok true → relate op b d = .ok true → relate op a d = .ok true

section Line

variable (L : Line k) (ha : areOrdered k a.kind = true) (hb : areOrdered k b.kind = true)
include L ha hb

theorem relate_turned (hop : op ∈ orderings) : ∃ t, relate op a b = .ok t ∧ relate op.turned b a = .ok t := by
  obtain ⟨t, ht, hiff⟩ := relate_iff L ha hb (List.mem_cons_of_mem _ hop)
  obtain ⟨t', ht', hiff'⟩ := relate_iff L hb ha (List.mem_cons_of_mem _ (turned_mem_orderings hop))
  have hsame : t = t' := by
    rw [Bool.eq_iff_iff, hiff, hiff']
    constructor
    · rintro ⟨p, q, hp, hq, hpq⟩
      exact ⟨q, p, hq, hp, (holds_turned_iff hop).mpr hpq⟩
    · rintro ⟨q, p, hq, hp, hqp⟩
      exact ⟨p, q, hp, hq, (holds_turned_iff hop).mp hqp⟩
  exact ⟨t, ht, hsame ▸ ht'⟩

theorem relate_trans (hop : op ∈ orderings) (hd : areOrdered k d.kind = true) (h : relate op a b = .ok true)
    (h' : relate op b d = .ok true) : relate op a d = .ok true := by
  have holds {v w : Value} (hv : areOrdered k v.kind = true) (hw : areOrdered k w.kind = true) :
      relate op v w = .ok true ↔ ∃ p q, L.place? v = some p ∧ L.place? w = some q ∧ op.Holds p q := by
    obtain ⟨t, ht, hiff⟩ := relate_iff L hv hw (List.mem_cons_of_mem _ hop)
    rw [ht, Except.ok.injEq, hiff]
  obtain ⟨p, q, hp, hq, hpq⟩ := (holds ha hb).mp h
  obtain ⟨q', r, hq', hr, hqr⟩ := (holds hb hd).mp h'
  obtain rfl := Option.some.inj (hq.symm.trans hq')
  exact (holds ha hd).mpr ⟨p, r, hp, hr, holds_trans hop hpq hqr⟩

theorem relate_answers : ∃ less equal greater,
    relate .lt a b = .ok less ∧ relate .eq a b = .ok equal ∧ relate .gt a b = .ok greater ∧
    relate .le a b = .ok (less || equal) ∧ relate .ge a b = .ok (greater || equal) ∧
    (¬ (a.IsNaN ∨ b.IsNaN) → [less, equal, greater].count true = 1) ∧
    (a.IsNaN ∨ b.IsNaN → [less, equal, greater].count true = 0) := by
  have answer (op : BinaryOp) (hop : op ∈ .eq :: orderings) := relate_iff L ha hb hop
  obtain ⟨less, hless, iless⟩ := answer .lt (by decide)
  obtain ⟨equal, hequal, iequal⟩ := answer .eq (by decide)
  obtain ⟨greater, hgreater, igreater⟩ := answer .gt (by decide)
  obtain ⟨atMost, hatMost, iatMost⟩ := answer .le (by decide)
  obtain ⟨atLeast, hatLeast, iatLeast⟩ := answer .ge (by decide)
  simp only [BinaryOp.Holds] at iless iequal igreater iatMost iatLeast
  obtain rfl : atMost = (less || equal) := by
    rw [Bool.eq_iff_iff, Bool.or_eq_true, iless, iequal, iatMost]
    simp only [le_iff_lt_or_eq, and_or_left, exists_or]
  obtain rfl : atLeast = (greater || equal) := by
    rw [Bool.eq_iff_iff, Bool.or_eq_true, igreater, iequal, iatLeast]
    simp only [le_iff_lt_or_eq', and_or_left, exists_or]
  refine ⟨less, equal, greater, hless, hequal, hgreater, hatMost, hatLeast, fun hnumbers => ?_, fun hnan => ?_⟩
  · rw [← L.place?_eq_none_iff a ha, ← L.place?_eq_none_iff b hb, not_or] at hnumbers
    obtain ⟨p, hp⟩ := Option.ne_none_iff_exists'.mp hnumbers.1
    obtain ⟨q, hq⟩ := Option.ne_none_iff_exists'.mp hnumbers.2
    simp only [hp, hq, Option.some.injEq, exists_and_left, exists_eq_left'] at iless iequal igreater
    exact count_of_trichotomy iless iequal igreater
  · rw [← L.place?_eq_none_iff a ha, ← L.place?_eq_none_iff b hb] at hnan
    have hnowhere (R : L.Point → L.Point → Prop) : ¬ ∃ p q, L.place? a = some p ∧ L.place? b = some q ∧ R p q := by
      rintro ⟨p, q, hp, hq, -⟩
      rcases hnan with h | h
      · cases h.symm.trans hp
      · cases h.symm.trans hq
    simp only [hnowhere, iff_false, Bool.not_eq_true] at iless iequal igreater
    rw [iless, iequal, igreater]
    rfl

end Line

theorem coherent (a b : Value) : Coherent a b where
  turned op hop := by
    by_cases h : areOrdered a.kind b.kind = true
    · obtain ⟨L⟩ := Line.exists_line h
      exact .inl (relate_turned L (areOrdered_self h) h hop)
    · exact .inr ⟨failsAs_of_not_areOrdered h hop,
        failsAs_of_not_areOrdered (mt areOrdered_symm h) (turned_mem_orderings hop)⟩
  fails_iff op hop := by
    rw [Comparable, ← areOrdered_iff]
    constructor
    · rintro hfails h
      obtain ⟨L⟩ := Line.exists_line h
      obtain ⟨t, ht, -⟩ := relate_turned L (areOrdered_self h) h hop
      rw [ht] at hfails
      exact not_failsAs_ok _ _ hfails
    · exact fun h => failsAs_of_not_areOrdered h hop
  answers h := by
    have hab := areOrdered_iff.mpr h
    obtain ⟨L⟩ := Line.exists_line hab
    exact relate_answers L (areOrdered_self hab) hab
  unequal := ⟨a.equals b, rfl, rfl⟩
  transitive d op hop hab hbd := by
    have ha := areOrdered_of_relate hab hop
    have hd := areOrdered_of_relate hbd hop
    obtain ⟨L⟩ := Line.exists_line ha
    exact relate_trans L (areOrdered_self ha) ha hop (areOrdered_trans ha hd) hab hbd

end Operation

/-- A relation evaluates to what its operator says of the values of its operands, and what the operators say of two
values fits together. -/
theorem eval_relations_coherent {α : Type} (c : Context) (note : α) (l r : Expr α) (a b : Value)
    (hl : l.eval c = .ok a) (hr : r.eval c = .ok b) :
    (∀ op, (Expr.relation note op l r).eval c = (relate op a b).map .bool) ∧ Operation.Coherent a b := by
  refine ⟨fun op => ?_, Operation.coherent a b⟩
  rw [Expr.eval, hl, hr]
  rfl

/-- The integers from the greatest one up to which doubles have all integers, in three kinds. -/
theorem eval_relations_mixed :
    let f : Value := .float 9007199254740992
    let i : Value := .int 9007199254740993
    let u : Value := .uint 9007199254740994
    let c : Context := ⟨fun s => if s = "f" then some f else if s = "i" then some i else none, .empty⟩
    (Expr.name () "f").eval c = .ok f ∧ (Expr.name () "i").eval c = .ok i ∧
    (Expr.relation () .lt (.name () "f") (.name () "i")).eval c = .ok (.bool true) ∧ relate .lt f u = .ok true := by
  intro f i u c
  have hf : (Expr.name () "f").eval c = .ok f := rfl
  have hi : (Expr.name () "i").eval c = .ok i := rfl
  have hless {a b : Value} (ha : a.kind.isNumeric = true) (hb : b.kind.isNumeric = true)
      (h : a.compare? b = some .lt) : relate .lt a b = .ok true := by
    have hordered : Operation.areOrdered a.kind b.kind = true := Operation.areOrdered_iff.mpr (.inl ⟨ha, hb⟩)
    rw [relate, Operation.order, if_pos hordered, h]
    rfl
  have hfi : relate .lt f i = .ok true := hless rfl rfl (by decide +kernel)
  have hiu : relate .lt i u = .ok true := hless rfl rfl (by decide +kernel)
  obtain ⟨heval, hcoherent⟩ := eval_relations_coherent c () (.name () "f") (.name () "i") f i hf hi
  refine ⟨hf, hi, ?_, hcoherent.transitive u .lt (by decide) hfi hiu⟩
  rw [heval, hfi]
  rfl

end ExprLang
