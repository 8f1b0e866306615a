/-!
# Sets of characters

A set is given by ranges of code points, in any order and perhaps with overlaps. The operations on sets agree with
the operations on their members.
-/

namespace ExprLang

/-- The code points from `first` to `last`. -/
structure CodeRange where
  first : Nat
  last : Nat
  deriving DecidableEq, Repr

/-- The code points of some ranges. -/
structure CharSet where
  ranges : List CodeRange
  deriving DecidableEq, Repr

namespace CodeRange

def contains (r : CodeRange) (n : Nat) : Bool := r.first ≤ n && n ≤ r.last

/-- What is left of a range without the code points of another. -/
def without (r s : CodeRange) : List CodeRange :=
  (if r.first < s.first then [⟨r.first, min r.last (s.first - 1)⟩] else []) ++
    (if s.last < r.last then [⟨max r.first (s.last + 1), r.last⟩] else [])

/-- The code points of both ranges. -/
def meet (r s : CodeRange) : Option CodeRange :=
  let first := max r.first s.first
  let last := min r.last s.last
  if first ≤ last then some ⟨first, last⟩ else none

/-- Whether `s` begins in `r` or right behind it. -/
def touches (r s : CodeRange) : Bool := r.first ≤ s.first && s.first ≤ r.last + 1

theorem contains_without (r s : CodeRange) (n : Nat) :
    (r.without s).any (·.contains n) = (r.contains n && !s.contains n) := by
  rw [Bool.eq_iff_iff]
  simp only [without, contains, List.any_append, Bool.or_eq_true, Bool.and_eq_true, Bool.not_eq_true',
    Bool.and_eq_false_iff, decide_eq_true_eq, decide_eq_false_iff_not]
  split <;> split <;> simp only [List.any_cons, List.any_nil, Bool.or_false, Bool.and_eq_true, decide_eq_true_eq,
    Bool.false_eq_true, or_false, false_or, false_iff] <;> omega

theorem contains_meet (r s : CodeRange) (n : Nat) :
    (r.meet s).any (·.contains n) = (r.contains n && s.contains n) := by
  rw [Bool.eq_iff_iff]
  simp only [meet, contains, Bool.and_eq_true, decide_eq_true_eq]
  split <;> simp only [Option.any_some, Option.any_none, Bool.and_eq_true, decide_eq_true_eq, Bool.false_eq_true,
    false_iff] <;> omega

end CodeRange

namespace CharSet

/-- Whether the code point `n` is in the set. -/
def contains (s : CharSet) (n : Nat) : Bool := s.ranges.any fun r => r.contains n

/-- Whether a character is in the set. -/
def has (s : CharSet) (c : Char) : Bool := s.contains c.toNat

/-- No code points. -/
def empty : CharSet := ⟨[]⟩

/-- The number of the last code point. -/
def lastPoint : Nat := 0x10ffff

/-- All code points. -/
def full : CharSet := ⟨[⟨0, lastPoint⟩]⟩

def ofRange (first last : Nat) : CharSet := ⟨[⟨first, last⟩]⟩

def singleton (c : Char) : CharSet := ofRange c.toNat c.toNat

def ofChars (cs : List Char) : CharSet := ⟨cs.map fun c => ⟨c.toNat, c.toNat⟩⟩

def union (s t : CharSet) : CharSet := ⟨s.ranges ++ t.ranges⟩

/-- The code points of any of the sets. -/
def unions (ss : List CharSet) : CharSet := ⟨ss.flatMap ranges⟩

def inter (s t : CharSet) : CharSet := ⟨s.ranges.flatMap fun r => t.ranges.filterMap r.meet⟩

/-- The code points of `s` that are not in `t`. -/
def diff (s t : CharSet) : CharSet := ⟨t.ranges.foldl (fun left r => left.flatMap fun l => l.without r) s.ranges⟩

/-- The code points of one set only. -/
def symmDiff (s t : CharSet) : CharSet := (s.diff t).union (t.diff s)

def compl (s : CharSet) : CharSet := full.diff s

/-- The set, or the code points outside it. -/
def negateIf (negated : Bool) (s : CharSet) : CharSet := if negated then s.compl else s

/-- Joins a range to those that it touches, and these to one another. -/
def joinRanges (r : CodeRange) : List CodeRange → List CodeRange
  | [] => [r]
  | s :: ss => if r.touches s then joinRanges ⟨r.first, max r.last s.last⟩ ss else r :: joinRanges s ss

/-- The same set with its ranges in order and none that touch. -/
def tidy (s : CharSet) : CharSet :=
  match s.ranges.mergeSort fun r s => r.first ≤ s.first with
  | [] => empty
  | r :: rs => ⟨joinRanges r rs⟩

theorem contains_union (s t : CharSet) (n : Nat) : (s.union t).contains n = (s.contains n || t.contains n) := by
  simp [union, contains]

theorem contains_unions (ss : List CharSet) (n : Nat) :
    (unions ss).contains n = ss.any fun s => s.contains n := by
  simp [unions, contains, List.any_flatMap]

theorem contains_inter (s t : CharSet) (n : Nat) : (s.inter t).contains n = (s.contains n && t.contains n) := by
  have step (r : CodeRange) (l : List CodeRange) :
      (l.filterMap r.meet).any (fun x => x.contains n) = (r.contains n && l.any fun x => x.contains n) := by
    induction l with
    | nil => simp
    | cons x l ih =>
      have h := r.contains_meet x n
      rw [List.filterMap_cons, List.any_cons, Bool.and_or_distrib_left, ← h, ← ih]
      cases r.meet x <;> simp
  simp only [inter, contains, List.any_flatMap, step]
  induction s.ranges with
  | nil => simp
  | cons r rs ih => simp only [List.any_cons, ih, Bool.and_or_distrib_right]

theorem contains_diff (s t : CharSet) (n : Nat) : (s.diff t).contains n = (s.contains n && !t.contains n) := by
  have step (r : CodeRange) (l : List CodeRange) :
      (l.flatMap fun x => x.without r).any (fun x => x.contains n) =
        ((l.any fun x => x.contains n) && !r.contains n) := by
    rw [List.any_flatMap]
    induction l with
    | nil => simp
    | cons x l ih => rw [List.any_cons, List.any_cons, ih, CodeRange.contains_without, Bool.and_or_distrib_right]
  have all (rs l : List CodeRange) :
      (rs.foldl (fun left r => left.flatMap fun x => x.without r) l).any (fun x => x.contains n) =
        ((l.any fun x => x.contains n) && !rs.any fun x => x.contains n) := by
    induction rs generalizing l with
    | nil => simp
    | cons r rs ih => rw [List.foldl_cons, ih, step, List.any_cons, Bool.not_or, Bool.and_assoc]
  exact all t.ranges s.ranges

theorem any_joinRanges (r : CodeRange) (rs : List CodeRange) (n : Nat) :
    (joinRanges r rs).any (·.contains n) = (r :: rs).any (·.contains n) := by
  induction rs generalizing r with
  | nil => rfl
  | cons s ss ih =>
    unfold joinRanges
    split
    · rename_i h
      rw [ih, List.any_cons, List.any_cons, List.any_cons, ← Bool.or_assoc]
      congr 1
      rw [Bool.eq_iff_iff]
      simp only [CodeRange.touches, CodeRange.contains, Bool.and_eq_true, Bool.or_eq_true, decide_eq_true_eq] at h ⊢
      omega
    · simp only [List.any_cons, ih]

theorem contains_tidy (s : CharSet) (n : Nat) : s.tidy.contains n = s.contains n := by
  have h := (List.mergeSort_perm s.ranges fun r s => r.first ≤ s.first).any_eq (f := (·.contains n))
  unfold tidy contains
  rw [← h]
  split
  · rename_i e
    rw [e]
    rfl
  · rename_i e
    rw [e]
    exact any_joinRanges _ _ n

theorem contains_compl (s : CharSet) (n : Nat) (h : n ≤ lastPoint) : s.compl.contains n = !s.contains n := by
  rw [compl, contains_diff]
  simp [full, contains, CodeRange.contains, h]

end CharSet

end ExprLang
