import ExprLang.Proofs.Syntax.Nesting
import ExprLang.Syntax.Session

/-!
# Sessions that run out of nesting

A reading leaves the depth of its session as it was unless it runs out of nesting, which costs one level (`depth_next`);
this is what becomes of the count of levels within the reading (`Parser.exprAt_eq`). So the depth of a session counts its
readings that ran out (`depth_after`), and a session reads as a new one at the same place would, until it runs out of
nesting where the new one does not (`agrees_iff`).
-/

namespace ExprLang

/-- Whether an error is a lack of nesting. -/
def ParseError.isTooDeep : ParseError → Bool
  | .lexical _ => false
  | .syntactic fault _ _ => fault.isTooDeep

theorem Failure.isTooDeep_toError (eof : Span) (f : Failure) : (f.toError eof).isTooDeep = f.fault.isTooDeep := by
  unfold toError
  split <;> rfl

namespace Session

/-- The session after some readings. -/
def after (s : Session) : Nat → Session
  | 0 => s
  | k + 1 => (s.after k).next.2

/-- Whether the next reading is an error for lack of nesting. -/
def runsOut (s : Session) : Bool :=
  match s.next.1 with
  | .ok _ => false
  | .error e => e.isTooDeep

/-- A new session at the place that this one is at. -/
def renewed (s : Session) : Session := { s with depth := 0 }

variable (s : Session)

/-- What is read next is what can be read with the levels that are left, and nothing else of the session changes but for
a level that stays counted when these ran out. -/
theorem next_eq : s.next = match Parser.exprWithin s.limit (s.limit - s.depth) s.rest with
    | .ok p => (.ok p.value, { s with rest := p.rest })
    | .error f => (.error (f.toError (endOfInput s.tokens)),
      { s with rest := f.rest, depth := s.depth + f.fault.isTooDeep.toNat }) := by
  rw [next, Parser.exprAt_eq]
  cases Parser.exprWithin s.limit (s.limit - s.depth) s.rest <;> rfl

@[simp] theorem tokens_next : s.next.2.tokens = s.tokens := by
  unfold next
  split <;> rfl

@[simp] theorem limit_next : s.next.2.limit = s.limit := by
  unfold next
  split <;> rfl

@[simp] theorem tokens_after (k : Nat) : (s.after k).tokens = s.tokens := by
  induction k with
  | zero => rfl
  | succ k ih => rw [after, tokens_next, ih]

@[simp] theorem limit_after (k : Nat) : (s.after k).limit = s.limit := by
  induction k with
  | zero => rfl
  | succ k ih => rw [after, limit_next, ih]

/-- A reading costs one level of nesting when it runs out of it, and none otherwise. -/
theorem depth_next : s.next.2.depth = s.depth + s.runsOut.toNat := by
  unfold runsOut
  rw [next_eq]
  cases Parser.exprWithin s.limit (s.limit - s.depth) s.rest with
  | ok p => rfl
  | error f => simp only [Failure.isTooDeep_toError]

/-- The depth counts the readings that ran out of nesting. -/
theorem depth_after (k : Nat) :
    (s.after k).depth = s.depth + (List.range k).countP fun i => (s.after i).runsOut := by
  induction k with
  | zero => rfl
  | succ k ih =>
    rw [after, depth_next, ih, List.range_succ, List.countP_append, List.countP_singleton, Nat.add_assoc]
    cases (s.after k).runsOut <;> rfl

/-- What is read and where the reading stops is as in a new session, unless nesting runs out that the new one has. -/
theorem agrees_iff : (s.next.1 = s.renewed.next.1 ∧ s.next.2.rest = s.renewed.next.2.rest) ↔
    (s.runsOut = true → s.depth = 0 ∨ s.limit = 0) := by
  by_cases hsame : s.depth = 0 ∨ s.limit = 0
  · have hn : s.limit - s.depth = s.limit := by omega
    have hagrees : s.next.1 = s.renewed.next.1 ∧ s.next.2.rest = s.renewed.next.2.rest := by
      rw [next_eq, next_eq]
      unfold renewed
      rw [hn]
      cases Parser.exprWithin s.limit s.limit s.rest <;> exact ⟨rfl, rfl⟩
    exact iff_of_true hagrees fun _ => hsame
  · have hd := Parser.exprWithin_deepens s.limit (Nat.sub_le s.limit s.depth) s.rest
    unfold runsOut
    rw [next_eq, next_eq]
    unfold renewed
    dsimp only [Nat.sub_zero]
    generalize Parser.exprWithin s.limit (s.limit - s.depth) s.rest = x at hd
    generalize Parser.exprWithin s.limit s.limit s.rest = y at hd
    cases hd with
    | ok p => simp
    | fail f hf => simp [Failure.isTooDeep_toError, hf]
    | stay f h => omega
    | further f _ hf _ hleft =>
      simp only [Failure.isTooDeep_toError, hf, hsame, imp_false, not_true_eq_false, iff_false, not_and]
      intro hresult hrest
      cases y with
      | ok p => nomatch hresult
      | error g =>
        -- the new session runs out of nesting too, but further on
        have hg : g.fault.isTooDeep = true := by
          rw [← g.isTooDeep_toError, ← Except.error.inj hresult, f.isTooDeep_toError, hf]
        have hlt : g.rest.length < f.rest.length := hleft _ (by simp [Parser.left?, hg])
        have hrest : f.rest = g.rest := hrest
        rw [hrest] at hlt
        exact Nat.lt_irrefl _ hlt

/-- What every further reading of a session does. It leaves the depth as it was exactly when it is no error for lack of
nesting; the depth is the number of earlier readings that were. The reading is that of a new session at the same place,
and stops where that one does, exactly when it is no such error, or no earlier reading was, or no nesting is allowed. -/
theorem next_after_start (limit : Nat) (tokens : List SpannedToken) (k : Nat) :
    let s := (start limit tokens).after k
    let new : Session := ⟨tokens, s.rest, 0, limit⟩
    (s.next.2.depth = s.depth ↔ s.runsOut = false) ∧
    s.depth = (List.range k).countP (fun i => ((start limit tokens).after i).runsOut) ∧
    ((s.next.1 = new.next.1 ∧ s.next.2.rest = new.next.2.rest) ↔
      (s.runsOut = true → (∀ i < k, ((start limit tokens).after i).runsOut = false) ∨ limit = 0)) := by
  intro s new
  have hcount : s.depth = (List.range k).countP (fun i => ((start limit tokens).after i).runsOut) := by
    rw [depth_after]
    exact Nat.zero_add _
  have hlimit : s.limit = limit := limit_after _ k
  have hnew : s.renewed = new := by
    have htokens : s.tokens = tokens := tokens_after _ k
    rw [renewed, htokens, hlimit]
  refine ⟨?_, hcount, ?_⟩
  · rw [depth_next]
    cases s.runsOut <;> simp
  · have hzero : s.depth = 0 ↔ ∀ i < k, ((start limit tokens).after i).runsOut = false := by
      rw [hcount, List.countP_eq_zero]
      simp
    rw [← hnew, agrees_iff, hzero, hlimit]

/-- An opened parenthesis and a number. -/
private def openedNumber : List SpannedToken := [(.symbol .openParen, ⟨0, 1⟩), (.literal (.int 1), ⟨1, 2⟩)]

/-- The depth is not always restored, and a later reading is then not that of a new session. -/
theorem not_depth_next :
    (¬ ∀ (limit : Nat) (tokens : List SpannedToken) (k : Nat), let s := (start limit tokens).after k
      s.next.2.depth = s.depth) ∧
    ¬ ∀ (limit : Nat) (tokens : List SpannedToken) (k : Nat), let s := (start limit tokens).after k
      s.next.1 = (⟨tokens, s.rest, 0, limit⟩ : Session).next.1 := by
  constructor
  · intro h
    have hdepth : (start 1 openedNumber).next.2.depth = 1 := by decide +kernel
    have h0 : (start 1 openedNumber).next.2.depth = 0 := h 1 openedNumber 0
    omega
  · intro h
    let s : Session := (start 1 openedNumber).after 1
    have herror : s.next.1.isOk = false := by decide +kernel
    have hok : (Session.mk openedNumber s.rest 0 1).next.1.isOk = true := by decide +kernel
    rw [← h 1 openedNumber 1, herror] at hok
    nomatch hok

end Session
end ExprLang
