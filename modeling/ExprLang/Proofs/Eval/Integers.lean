import Mathlib.Algebra.Ring.Int.Defs
import ExprLang.Proofs.Eval.Errors

/-!
# Exact integers

A chain of arithmetic on integers is compared with the chain of the same operators on unbounded integers. One step does
the same as its operator there or fails with the first of its faults (`settles_intStep`, `settles_uintStep`), so by
induction a chain has the exact result or fails with the first fault of its steps (`settled_fold`, `settled_chain`).
What a step is compared at is the exact result of those before it, which none of them has changed by wrapping around.
-/

namespace ExprLang

/-! ### Integers of two kinds -/

/-- The kinds of integers. -/
inductive IntegerKind where
  | int | uint
  deriving DecidableEq

/-- An integer of one of the two kinds. -/
inductive Integer where
  | int (n : Int64)
  | uint (n : UInt64)

namespace Integer

def toValue : Integer → Value
  | int n => .int n
  | uint n => .uint n

def kind : Integer → IntegerKind
  | int _ => .int
  | uint _ => .uint

/-- The integer without its kind. -/
def number : Integer → Int
  | int n => n.toInt
  | uint n => n.toNat

theorem eq_of_number {i j : Integer} (hkind : i.kind = j.kind) (hnumber : i.number = j.number) : i = j := by
  cases i with
  | int a =>
    cases j with
    | int b => exact congrArg int (Int64.toInt_inj.mp hnumber)
    | uint b => cases hkind
  | uint a =>
    cases j with
    | int b => cases hkind
    | uint b => exact congrArg uint (UInt64.toNat_inj.mp (Int.ofNat_inj.mp hnumber))

end Integer

/-- The result of an operator on unbounded integers. A quotient is rounded towards zero, and a remainder has the sign of
the dividend. -/
def BinaryOp.exact (op : BinaryOp) (a b : Int) : Int :=
  match op with
  | .add => a + b
  | .sub => a - b
  | .mul => a * b
  | .div => a.tdiv b
  | .mod => a.tmod b
  | _ => a

/-- The result of a chain on unbounded integers. -/
def BinaryOp.exactChain (first : Int) (following : List (BinaryOp × Int)) : Int :=
  following.foldl (fun acc p => p.1.exact acc p.2) first

namespace IntegerKind

/-- The kind has the number. -/
def Holds : IntegerKind → Int → Prop
  | int, n => -2 ^ 63 ≤ n ∧ n < 2 ^ 63
  | uint, n => 0 ≤ n ∧ n < 2 ^ 64

instance (k : IntegerKind) (n : Int) : Decidable (k.Holds n) :=
  match k with
  | int => inferInstanceAs (Decidable (_ ∧ _))
  | uint => inferInstanceAs (Decidable (_ ∧ _))

/-- The kind that a chain is computed in. -/
def common (operands : List Integer) : IntegerKind :=
  if ∀ i ∈ operands, i.kind = .uint then .uint else .int

def promotion : IntegerKind → Arithmetic.Promotion
  | int => .int
  | uint => .uint

/-- The name of a step of the kind in its error. -/
def stepName : IntegerKind → BinaryOp → String
  | int, op => "integer '" ++ op.text ++ "'"
  | uint, op => "unsigned '" ++ op.text ++ "'"

/-- What is wrong with an operand. -/
def operandFault? (k : IntegerKind) (b : Int) : Option EvalError :=
  if k.Holds b then none else some (.overflow "uint operand as int")

/-- What is wrong with a step from `a`: its operand, a zero as the divisor or else its result. The remainder of the
least `int` by `-1` is refused though it is zero. -/
def stepFault? (k : IntegerKind) (a : Int) (op : BinaryOp) (b : Int) : Option EvalError :=
  if ¬ k.Holds b then some (.overflow "uint operand as int")
  else if (op = .div ∨ op = .mod) ∧ b = 0 then some .divisionByZero
  else if ¬ k.Holds (op.exact a b) ∨ (k = .int ∧ op = .mod ∧ a = -2 ^ 63 ∧ b = -1) then
    some (.overflow (k.stepName op))
  else none

section

variable {k : IntegerKind} {op : BinaryOp} {a b : Int}

theorem stepFault?_of_not_holds (hb : ¬ k.Holds b) :
    k.stepFault? a op b = some (.overflow "uint operand as int") :=
  if_pos hb

theorem stepFault?_of_zero (hzero : k.Holds 0) (hop : op = .div ∨ op = .mod) :
    k.stepFault? a op 0 = some .divisionByZero := by
  rw [stepFault?, if_neg (not_not.mpr hzero), if_pos ⟨hop, rfl⟩]

/-- A step whose operand is admitted only overflows when its result does. -/
theorem stepFault?_of_holds (hb : k.Holds b) (hzero : ¬ ((op = .div ∨ op = .mod) ∧ b = 0))
    (hleast : ¬ (k = .int ∧ op = .mod ∧ a = -2 ^ 63 ∧ b = -1)) :
    k.stepFault? a op b = if ¬ k.Holds (op.exact a b) then some (.overflow (k.stepName op)) else none := by
  simp only [stepFault?, if_neg (not_not.mpr hb), if_neg hzero, or_iff_left hleast]

end

/-- What is wrong with each step of a chain when those before it are exact. Step 0 takes the first operand. -/
def faults (k : IntegerKind) (first : Int) (following : List (BinaryOp × Int)) : Nat → Option EvalError
  | 0 => k.operandFault? first
  | i + 1 => following[i]?.bind fun p => k.stepFault? (BinaryOp.exactChain first (following.take i)) p.1 p.2

end IntegerKind

/-- The error is the first one of the sequence. -/
def FirstFault (faults : Nat → Option EvalError) (e : EvalError) : Prop :=
  ∃ i, faults i = some e ∧ ∀ j < i, faults j = none

namespace FirstFault

variable {faults : Nat → Option EvalError} {e e' : EvalError}

theorem unique (h : FirstFault faults e) (h' : FirstFault faults e') : e = e' := by
  obtain ⟨i, hi, hbefore⟩ := h
  obtain ⟨j, hj, hbefore'⟩ := h'
  obtain hlt | rfl | hlt := Nat.lt_trichotomy i j
  · simp [hbefore' i hlt] at hi
  · exact Option.some.inj (hi.symm.trans hj)
  · simp [hbefore j hlt] at hj

theorem exists_ne_none (h : FirstFault faults e) : ¬ ∀ i, faults i = none := by
  obtain ⟨i, hi, -⟩ := h
  intro hnone
  simp [hnone i] at hi

end FirstFault

namespace Arithmetic

open BinaryOp (arithmetic exactChain)

/-! ### Outcomes and faults -/

section Settled

variable {M N : Type} {P : M → Prop} {Q : N → Prop} {x : Outcome M} {f : M → Outcome N}
  {faults : Nat → Option EvalError}

/-- The outcome is the fault, if there is one, and otherwise a result as wanted. -/
def Settles (P : M → Prop) (x : Outcome M) (fault : Option EvalError) : Prop :=
  (fault = none ∧ ∃ r, x = .ok r ∧ P r) ∨ ∃ e, fault = some e ∧ x = .error e

/-- The outcome is the first one of the faults, if there are any, and otherwise a result as wanted. -/
def Settled (P : M → Prop) (x : Outcome M) (faults : Nat → Option EvalError) : Prop :=
  ((∀ i, faults i = none) ∧ ∃ r, x = .ok r ∧ P r) ∨ ∃ e, FirstFault faults e ∧ x = .error e

/-- What comes first is settled by the first fault, and what follows then by the others. -/
theorem Settles.bind (hx : Settles P x (faults 0)) (hf : ∀ a, P a → Settled Q (f a) fun i => faults (i + 1)) :
    Settled Q (x.bind f) faults := by
  obtain ⟨hnone, a, rfl, ha⟩ | ⟨e, hsome, rfl⟩ := hx
  · obtain ⟨hrest, hr⟩ | ⟨e, ⟨i, hi, hbefore⟩, he⟩ := hf a ha
    · exact .inl ⟨Nat.and_forall_add_one.mp ⟨hnone, hrest⟩, hr⟩
    · refine .inr ⟨e, ⟨i + 1, hi, fun j hj => ?_⟩, he⟩
      cases j with
      | zero => exact hnone
      | succ j => exact hbefore j (by omega)
  · exact .inr ⟨e, ⟨0, hsome, fun j hj => absurd hj (Nat.not_lt_zero j)⟩, rfl⟩

theorem Settled.map {g : M → N} (hx : Settled P x faults) (hg : ∀ a, P a → Q (g a)) : Settled Q (x.map g) faults := by
  obtain ⟨hnone, a, rfl, ha⟩ | ⟨e, hfirst, rfl⟩ := hx
  · exact .inl ⟨hnone, g a, rfl, hg a ha⟩
  · exact .inr ⟨e, hfirst, rfl⟩

theorem Settled.eq_ok_iff (hx : Settled P x faults) (hunique : ∀ a b, P a → P b → a = b) (r : M) :
    x = .ok r ↔ (∀ i, faults i = none) ∧ P r := by
  obtain ⟨hnone, a, rfl, ha⟩ | ⟨e, hfirst, rfl⟩ := hx
  · constructor
    · intro h
      cases h
      exact ⟨hnone, ha⟩
    · exact fun h => congrArg _ (hunique a r ha h.2)
  · constructor
    · intro h
      cases h
    · exact fun h => absurd h.1 hfirst.exists_ne_none

theorem Settled.eq_error_iff (hx : Settled P x faults) (e : EvalError) : x = .error e ↔ FirstFault faults e := by
  obtain ⟨hnone, a, rfl, -⟩ | ⟨e', hfirst, rfl⟩ := hx
  · constructor
    · intro h
      cases h
    · exact fun h => absurd hnone h.exists_ne_none
  · constructor
    · intro h
      cases h
      exact hfirst
    · exact fun h => congrArg _ (hfirst.unique h)

end Settled

/-! ### Steps -/

section Steps

variable {op : BinaryOp} {n : Int}

theorem holds_toInt (a : Int64) : IntegerKind.int.Holds a.toInt :=
  ⟨a.le_toInt, a.toInt_lt⟩

theorem holds_toNat (a : UInt64) : IntegerKind.uint.Holds a.toNat :=
  ⟨Int.natCast_nonneg _, by exact_mod_cast a.toNat_lt⟩

/-- An `int` is what fits. -/
theorem toInt?_eq_some_iff {r : Int64} : toInt? n = some r ↔ r.toInt = n := by
  have hmin : Int64.minValue.toInt = -2 ^ 63 := by decide
  have hmax : Int64.maxValue.toInt = 2 ^ 63 - 1 := by decide
  rw [toInt?, hmin, hmax]
  constructor
  · intro h
    split at h
    · obtain rfl := Option.some.inj h
      exact Int64.toInt_ofInt_of_le (by omega) (by omega)
    · cases h
  · rintro rfl
    obtain ⟨hlow, hhigh⟩ : IntegerKind.int.Holds r.toInt := holds_toInt r
    rw [if_pos (by omega), Int64.ofInt_toInt]

/-- A `uint` is what fits. -/
theorem toUInt?_eq_some_iff {r : UInt64} : toUInt? n = some r ↔ (r.toNat : Int) = n := by
  have hsize : UInt64.size = 2 ^ 64 := rfl
  rw [toUInt?, hsize]
  constructor
  · intro h
    split at h
    · rename_i hfits
      obtain rfl := Option.some.inj h
      rw [UInt64.toNat_ofNat_of_lt' hfits.2, Int.toNat_of_nonneg hfits.1]
    · cases h
  · rintro rfl
    have hlt : r.toNat < 2 ^ 64 := r.toNat_lt
    rw [Int.toNat_natCast, if_pos ⟨Int.natCast_nonneg _, hlt⟩, UInt64.ofNat_toNat]

theorem toInt_of_holds (operation : String) (h : IntegerKind.int.Holds n) :
    ∃ r, toInt operation n = .ok r ∧ r.toInt = n := by
  have hr : (Int64.ofInt n).toInt = n := Int64.toInt_ofInt_of_le h.1 h.2
  exact ⟨.ofInt n, by rw [toInt, toInt?_eq_some_iff.mpr hr], hr⟩

theorem toInt_of_not_holds (operation : String) (h : ¬ IntegerKind.int.Holds n) :
    toInt operation n = .error (.overflow operation) := by
  cases hr : toInt? n with
  | none => rw [toInt, hr]
  | some r =>
    obtain rfl := toInt?_eq_some_iff.mp hr
    exact absurd (holds_toInt r) h

theorem toUInt_of_holds (operation : String) (h : IntegerKind.uint.Holds n) :
    ∃ r : UInt64, toUInt operation n = .ok r ∧ r.toNat = n := by
  obtain ⟨hle, hlt⟩ := h
  have hsize : n.toNat < UInt64.size := (Int.toNat_lt hle).mpr hlt
  have hr : ((UInt64.ofNat n.toNat).toNat : Int) = n := by
    rw [UInt64.toNat_ofNat_of_lt' hsize, Int.toNat_of_nonneg hle]
  exact ⟨.ofNat n.toNat, by rw [toUInt, toUInt?_eq_some_iff.mpr hr], hr⟩

theorem toUInt_of_not_holds (operation : String) (h : ¬ IntegerKind.uint.Holds n) :
    toUInt operation n = .error (.overflow operation) := by
  cases hr : toUInt? n with
  | none => rw [toUInt, hr]
  | some r =>
    obtain rfl := toUInt?_eq_some_iff.mp hr
    exact absurd (holds_toNat r) h

theorem settles_toInt (operation : String) (n : Int) :
    Settles (fun r => r.toInt = n) (toInt operation n)
      (if ¬ IntegerKind.int.Holds n then some (.overflow operation) else none) := by
  by_cases h : IntegerKind.int.Holds n
  · exact .inl ⟨if_neg (not_not.mpr h), toInt_of_holds operation h⟩
  · exact .inr ⟨_, if_pos h, toInt_of_not_holds operation h⟩

theorem settles_toUInt (operation : String) (n : Int) :
    Settles (fun r => r.toNat = n) (toUInt operation n)
      (if ¬ IntegerKind.uint.Holds n then some (.overflow operation) else none) := by
  by_cases h : IntegerKind.uint.Holds n
  · exact .inl ⟨if_neg (not_not.mpr h), toUInt_of_holds operation h⟩
  · exact .inr ⟨_, if_pos h, toUInt_of_not_holds operation h⟩

/-- A step on `int` is exact or has a fault. -/
theorem settles_intStep (hop : op ∈ arithmetic) (a b : Int64) :
    Settles (fun r => r.toInt = op.exact a.toInt b.toInt) (intStep op a b)
      (IntegerKind.int.stepFault? a.toInt op b.toInt) := by
  have hb := holds_toInt b
  cases op
  case add | sub | mul =>
    rw [IntegerKind.stepFault?_of_holds hb (by simp) (by simp)]
    exact settles_toInt _ _
  case div =>
    by_cases hzero : b = 0
    · rw [hzero]
      exact .inr ⟨_, IntegerKind.stepFault?_of_zero (holds_toInt 0) (.inl rfl), rfl⟩
    · have hne : b.toInt ≠ 0 := fun h => hzero (Int64.toInt_inj.mp h)
      rw [IntegerKind.stepFault?_of_holds hb (by simp [hne]) (by simp), intStep, if_neg hzero]
      exact settles_toInt _ _
  case mod =>
    by_cases hzero : b = 0
    · rw [hzero]
      exact .inr ⟨_, IntegerKind.stepFault?_of_zero (holds_toInt 0) (.inr rfl), rfl⟩
    · have hne : b.toInt ≠ 0 := fun h => hzero (Int64.toInt_inj.mp h)
      by_cases hleast : a = Int64.minValue ∧ b = -1
      · obtain ⟨rfl, rfl⟩ := hleast
        exact .inr ⟨_, rfl, rfl⟩
      · have hnumbers : ¬ (a.toInt = -2 ^ 63 ∧ b.toInt = -1) := fun h =>
          hleast ⟨Int64.toInt_inj.mp h.1, Int64.toInt_inj.mp h.2⟩
        rw [IntegerKind.stepFault?_of_holds hb (by simp [hne]) (by simpa using hnumbers), intStep, if_neg hzero,
          if_neg hleast]
        exact settles_toInt _ _
  all_goals exact absurd hop (by decide)

/-- A step on `uint` is exact or has a fault. -/
theorem settles_uintStep (hop : op ∈ arithmetic) (a b : UInt64) :
    Settles (fun r => r.toNat = op.exact a.toNat b.toNat) (uintStep op a b)
      (IntegerKind.uint.stepFault? a.toNat op b.toNat) := by
  have hb := holds_toNat b
  cases op
  case add | sub | mul =>
    rw [IntegerKind.stepFault?_of_holds hb (by simp) (by simp)]
    exact settles_toUInt _ _
  case div =>
    by_cases hzero : b = 0
    · rw [hzero]
      exact .inr ⟨_, IntegerKind.stepFault?_of_zero (holds_toNat 0) (.inl rfl), rfl⟩
    · have hne : b.toNat ≠ 0 := fun h => hzero (UInt64.toNat_inj.mp h)
      have hexact : (a.toNat : Int).tdiv b.toNat = a.toNat / b.toNat :=
        Int.tdiv_eq_ediv_of_nonneg (Int.natCast_nonneg _)
      rw [IntegerKind.stepFault?_of_holds hb (by simp [hne]) (by simp), uintStep, if_neg hzero, ← hexact]
      exact settles_toUInt _ _
  case mod =>
    by_cases hzero : b = 0
    · rw [hzero]
      exact .inr ⟨_, IntegerKind.stepFault?_of_zero (holds_toNat 0) (.inr rfl), rfl⟩
    · have hne : b.toNat ≠ 0 := fun h => hzero (UInt64.toNat_inj.mp h)
      have hexact : (a.toNat : Int).tmod b.toNat = a.toNat % b.toNat :=
        Int.tmod_eq_emod_of_nonneg (Int.natCast_nonneg _)
      rw [IntegerKind.stepFault?_of_holds hb (by simp [hne]) (by simp), uintStep, if_neg hzero, ← hexact]
      exact settles_toUInt _ _
  all_goals exact absurd hop (by decide)

/-! ### Operands -/

/-- An operand as an `int` is the same number or does not fit. -/
theorem settles_asInt (i : Integer) :
    Settles (fun r => r.toInt = i.number) (asInt i.toValue) (IntegerKind.int.operandFault? i.number) := by
  cases i with
  | int n => exact .inl ⟨if_pos (holds_toInt n), n, rfl, rfl⟩
  | uint n =>
    have h := settles_toInt "uint operand as int" n.toNat
    rwa [ite_not] at h

/-- An operand of a chain on `uint` is the same number. -/
theorem settles_asUInt {i : Integer} (h : i.kind = .uint) :
    Settles (fun r => r.toNat = i.number) (asUInt i.toValue) (IntegerKind.uint.operandFault? i.number) := by
  cases i with
  | int n => cases h
  | uint n => exact .inl ⟨if_pos (holds_toNat n), n, rfl, rfl⟩

/-- A step with its operand is settled by the fault of the step, which looks at the operand first. -/
theorem Settles.bind_step {M N : Type} {P : N → Prop} {number : M → Int} {x : Outcome M} {f : M → Outcome N}
    {k : IntegerKind} {a b : Int} (hx : Settles (fun r => number r = b) x (k.operandFault? b))
    (hf : ∀ r, number r = b → Settles P (f r) (k.stepFault? a op b)) : Settles P (x.bind f) (k.stepFault? a op b) := by
  obtain ⟨-, r, rfl, hr⟩ | ⟨e, hsome, rfl⟩ := hx
  · exact hf r hr
  · refine .inr ⟨e, ?_, rfl⟩
    by_cases hb : k.Holds b
    · simp [IntegerKind.operandFault?, hb] at hsome
    · rw [IntegerKind.stepFault?_of_not_holds hb, ← hsome, IntegerKind.operandFault?, if_neg hb]

end Steps

/-! ### Chains -/

variable {following : List (BinaryOp × Integer)}

/-- The operands of a chain as values. -/
def valueSteps (following : List (BinaryOp × Integer)) : List (BinaryOp × Value) :=
  following.map (Prod.map id Integer.toValue)

/-- The operands of a chain as numbers. -/
def numberSteps (following : List (BinaryOp × Integer)) : List (BinaryOp × Int) :=
  following.map (Prod.map id Integer.number)

/-- If each step is exact or fails with its fault, the chain is exact or fails with the first fault of its steps. -/
theorem settled_fold {N : Type} {promote : Value → Outcome N} {step : BinaryOp → N → N → Outcome N} {k : IntegerKind}
    (number : N → Int)
    (hstep : ∀ p ∈ following, ∀ acc, Settles (fun r => number r = p.1.exact (number acc) p.2.number)
      ((promote p.2.toValue).bind (step p.1 acc)) (k.stepFault? (number acc) p.1 p.2.number))
    (acc : N) :
    Settled (fun r => number r = exactChain (number acc) (numberSteps following))
      (fold promote step acc (valueSteps following))
      fun i => k.faults (number acc) (numberSteps following) (i + 1) := by
  induction following generalizing acc with
  | nil => exact .inl ⟨fun i => rfl, acc, rfl, rfl⟩
  | cons p rest ih =>
    obtain ⟨hp, hrest⟩ := List.forall_mem_cons.mp hstep
    have hfold : fold promote step acc (valueSteps (p :: rest)) =
        ((promote p.2.toValue).bind (step p.1 acc)).bind fun acc => fold promote step acc (valueSteps rest) := by
      show (promote p.2.toValue).bind _ = _
      cases promote p.2.toValue <;> rfl
    rw [hfold]
    refine (hp acc).bind fun r hr => ?_
    -- the faults behind the first step are those of the rest from the exact result of that step
    have hnext := ih hrest r
    rw [hr] at hnext
    exact hnext

/-- What is wanted of a chain: the number of its kind that is the exact result. -/
def IsExact (k : IntegerKind) (first : Int) (following : List (BinaryOp × Int)) (v : Value) : Prop :=
  ∃ r : Integer, v = r.toValue ∧ r.kind = k ∧ r.number = exactChain first following

theorem IsExact.unique {k : IntegerKind} {first : Int} {following : List (BinaryOp × Int)} {v w : Value}
    (hv : IsExact k first following v) (hw : IsExact k first following w) : v = w := by
  obtain ⟨i, rfl, hi, hnumber⟩ := hv
  obtain ⟨j, rfl, hj, hnumber'⟩ := hw
  rw [Integer.eq_of_number (hi.trans hj.symm) (hnumber.trans hnumber'.symm)]

/-- If operands and steps are exact or fail with their faults, the chain is exact or fails with its first fault. -/
theorem settled_chain {N : Type} {promote : Value → Outcome N} {step : BinaryOp → N → N → Outcome N}
    {k : IntegerKind} {first : Integer} (number : N → Int) (value : N → Integer)
    (hvalue : ∀ a, (value a).kind = k ∧ (value a).number = number a)
    (hpromote : ∀ i ∈ first :: following.map Prod.snd,
      Settles (fun r => number r = i.number) (promote i.toValue) (k.operandFault? i.number))
    (hstep : ∀ p ∈ following, ∀ a b, Settles (fun r => number r = p.1.exact (number a) (number b)) (step p.1 a b)
      (k.stepFault? (number a) p.1 (number b))) :
    Settled (IsExact k first.number (numberSteps following))
      (((promote first.toValue).bind fun a => fold promote step a (valueSteps following)).map
        fun a => (value a).toValue)
      (k.faults first.number (numberSteps following)) := by
  obtain ⟨hfirst, hrest⟩ := List.forall_mem_cons.mp hpromote
  have hsteps (p : BinaryOp × Integer) (hp : p ∈ following) (acc : N) :
      Settles (fun r => number r = p.1.exact (number acc) p.2.number) ((promote p.2.toValue).bind (step p.1 acc))
        (k.stepFault? (number acc) p.1 p.2.number) := by
    refine (hrest p.2 (List.mem_map_of_mem hp)).bind_step fun b hb => ?_
    rw [← hb]
    exact hstep p hp acc b
  have hchain : Settled (fun r => number r = exactChain first.number (numberSteps following))
      ((promote first.toValue).bind fun a => fold promote step a (valueSteps following))
      (k.faults first.number (numberSteps following)) := by
    refine hfirst.bind fun a ha => ?_
    rw [← ha]
    exact settled_fold number hsteps a
  exact hchain.map fun r hr => ⟨value r, rfl, (hvalue r).1, (hvalue r).2.trans hr⟩

/-- Integers are promoted to `uint` when all are of that kind, and to `int` otherwise. -/
theorem promotion_integers (operators : List BinaryOp) (operands : List Integer) :
    promotion operators (operands.map Integer.toValue) = .ok (IntegerKind.common operands).promotion := by
  have hnumeric : ((operands.map Integer.toValue).find? fun v => !v.kind.isNumeric) = none := by
    rw [find?_notNumeric_eq_none_iff, List.forall_mem_map]
    intro i hi
    cases i <;> rfl
  have hfloat : ¬ ((operands.map Integer.toValue).any fun v => v.kind = .float) = true := by
    rw [List.any_map, List.any_eq_true]
    rintro ⟨i, -, hi⟩
    cases i <;> cases hi
  have huint : ((operands.map Integer.toValue).all fun v => v.kind = .uint) = true ↔
      ∀ i ∈ operands, i.kind = .uint := by
    rw [List.all_map, List.all_eq_true]
    refine forall₂_congr fun i _ => ?_
    cases i <;> simp [Integer.toValue, Integer.kind, Value.kind]
  rw [promotion, hnumeric]
  simp only [if_neg hfloat, huint, IntegerKind.common]
  split <;> rfl

/-- A chain on integers is exact or fails with the first fault of its steps. -/
theorem settled_evaluate (first : Integer) (h : ∀ p ∈ following, p.1 ∈ arithmetic) :
    let k := IntegerKind.common (first :: following.map Prod.snd)
    Settled (IsExact k first.number (numberSteps following)) (evaluate first.toValue (valueSteps following))
      (k.faults first.number (numberSteps following)) := by
  intro k
  have hoperands : first.toValue :: (valueSteps following).map Prod.snd =
      (first :: following.map Prod.snd).map Integer.toValue := by
    simp [valueSteps, Function.comp_def]
  have hpromotion : promotion [] (first.toValue :: (valueSteps following).map Prod.snd) = .ok k.promotion := by
    rw [hoperands]
    exact promotion_integers [] _
  rw [evaluate_of_promotion hpromotion]
  by_cases hall : ∀ i ∈ first :: following.map Prod.snd, i.kind = .uint
  · have hk : k = .uint := if_pos hall
    have hchain := settled_chain (fun r : UInt64 => (r.toNat : Int)) .uint (fun _ => ⟨rfl, rfl⟩)
      (fun i hi => settles_asUInt (hall i hi)) fun p hp => settles_uintStep (h p hp)
    rw [hk]
    exact hchain
  · have hk : k = .int := if_neg hall
    have hchain := settled_chain Int64.toInt .int (fun _ => ⟨rfl, rfl⟩)
      (fun i (_ : i ∈ first :: following.map Prod.snd) => settles_asInt i) fun p hp => settles_intStep (h p hp)
    rw [hk]
    exact hchain

end Arithmetic

namespace Expr

open Arithmetic (IsExact valueSteps numberSteps)

/-- A chain of arithmetic on integers. It is computed as `uint` if all of its operands are, and as `int` otherwise. Its
value is the exact result if no step fails, and its error is that of the first step that does. -/
theorem eval_chain_integers {α : Type} (ctx : Context) (note : α) (level : Level) (c : Chain (Expr α)) (first : Integer)
    (following : List (BinaryOp × Integer)) (hlevel : level = .additive ∨ level = .multiplicative)
    (hop : ∀ p ∈ following, p.1 ∈ BinaryOp.arithmetic) (hfirst : c.first.eval ctx = .ok first.toValue)
    (hfollowing : List.Forall₂ (HasValue ctx) c.following (valueSteps following)) :
    let k := IntegerKind.common (first :: following.map Prod.snd)
    let faults := k.faults first.number (numberSteps following)
    (∀ v, (chain note level c).eval ctx = .ok v ↔
      (∀ i, faults i = none) ∧ IsExact k first.number (numberSteps following) v) ∧
    ∀ e, (chain note level c).eval ctx = .error e ↔ FirstFault faults e := by
  have hnumeric : first.toValue.kind.isNumeric = true := by
    cases first <;> rfl
  rw [eval_chain_of_hasValue hlevel note hfirst hfollowing, Operation.combine_of_numeric hlevel hnumeric]
  have hsettled := Arithmetic.settled_evaluate first hop
  exact ⟨hsettled.eq_ok_iff fun v w hv hw => hv.unique hw, hsettled.eq_error_iff⟩

/-- `5u - 7 + 1u`, whose difference is no `uint`, and the remainder of the least `int` by `-1`, which fails before the
division by zero behind it. -/
theorem eval_chain_mixed :
    let ctx : Context := ⟨.empty, .empty⟩
    let mixed : Chain (Expr Unit) :=
      ⟨literal () (.uint 5), .sub, literal () (.int 7), [(.add, literal () (.uint 1))]⟩
    let least : Chain (Expr Unit) :=
      ⟨literal () (.int Int64.minValue), .mod, literal () (.int (-1)), [(.div, literal () (.int 0))]⟩
    (chain () .additive mixed).eval ctx = .ok (.int (-1)) ∧
    (chain () .multiplicative least).eval ctx = .error (.overflow "integer '%'") := by
  intro ctx mixed least
  constructor
  · have hmixed := eval_chain_integers ctx () .additive mixed (.uint 5) [(.sub, .int 7), (.add, .uint 1)] (.inl rfl)
      (by decide) rfl (.cons ⟨rfl, rfl⟩ (.cons ⟨rfl, rfl⟩ .nil))
    have hfaults (i : Nat) : IntegerKind.int.faults 5 [(.sub, 7), (.add, 1)] i = none := by
      rcases i with _ | _ | _ | i <;>
        simp [IntegerKind.faults, IntegerKind.operandFault?, IntegerKind.stepFault?, IntegerKind.Holds,
          BinaryOp.exactChain, BinaryOp.exact]
    exact (hmixed.1 _).mpr ⟨hfaults, .int (-1), rfl, rfl, rfl⟩
  · have hleast := eval_chain_integers ctx () .multiplicative least (.int Int64.minValue)
      [(.mod, .int (-1)), (.div, .int 0)] (.inr rfl) (by decide) rfl (.cons ⟨rfl, rfl⟩ (.cons ⟨rfl, rfl⟩ .nil))
    have hfault : IntegerKind.int.stepFault? (-2 ^ 63) .mod (-1) = some (.overflow "integer '%'") := by
      simp [IntegerKind.stepFault?, IntegerKind.Holds, IntegerKind.stepName, BinaryOp.text]
    have hoperand : IntegerKind.int.operandFault? (-2 ^ 63) = none := by
      simp [IntegerKind.operandFault?, IntegerKind.Holds]
    refine (hleast.2 _).mpr ⟨1, hfault, fun j hj => ?_⟩
    obtain rfl : j = 0 := by omega
    exact hoperand

end Expr

end ExprLang
