import ExprLang.Proofs.Token.Extent

/-!
# Marks

The scanner alone, without regard to signs: a text is cut into marks, which are tokens, integers up to the magnitude of
the least one, and faults (`marksFrom`). Signs are then joined to the marks that they touch (`joinBy`), and the first
mark that is still no token is the error (`settle`).

The scanner of the language joins the sign in front of the least magnitude at once. It finds the tokens of the marks
after only these signs are joined (`scansAsMarks`).
-/

namespace ExprLang

open Lexeme (recognise)
open Digits (isDigit)

/-! ### Marks -/

/-- What stands in a text before signs are joined. -/
inductive Mark where
  | token (t : Token)
  /-- an integer without sign -/
  | magnitude (n : Nat)
  /-- a text that is no token -/
  | fault

namespace Mark

/-- The token that a mark is when no sign is joined to it. The magnitude of the least integer is none. -/
def token? : Mark → Option Token
  | token t => some t
  | magnitude n => if n < Lexeme.leastMagnitude then some (.literal (.int (Int64.ofNat n))) else none
  | fault => none

def isMinus : Mark → Bool
  | token (.symbol .minus) => true
  | _ => false

/-- Whether an operand can end with the mark. -/
def endsOperand : Mark → Bool
  | token t => t.endsOperand
  | magnitude _ => true
  | fault => false

/-- An integer or a float with a sign joined to it. -/
def negated? : Mark → Option Mark
  | magnitude n => some (token (.literal (.int (Int64.ofInt (-n)))))
  | token (.literal (.float f)) => some (token (.literal (.float (-f))))
  | _ => none

/-- The least integer, of its magnitude. -/
def least? : Mark → Option Mark
  | magnitude n => if n = Lexeme.leastMagnitude then some (token (.literal (.int Int64.minValue))) else none
  | _ => none

/-- The mark of an integer; a magnitude above that of the least integer is a fault. -/
def ofInteger (text : List Char) : Mark :=
  match Lexeme.magnitude? text with
  | some n => if n ≤ Lexeme.leastMagnitude then magnitude n else fault
  | none => fault

/-- The mark at the head of the input, if it is not passed over, and its length. -/
def head (cs : List Char) : Option Mark × Nat :=
  match recognise cs with
  | some (.integer _, n) => (some (ofInteger (cs.take n)), n)
  | _ =>
    match Scan.head cs with
    | .blank n => (none, n)
    | .token t n => (some (token t), n)
    | .reject n => (some fault, n)

end Mark

/-- A mark and where it stands. -/
abbrev SpannedMark := Mark × Span

/-- The marks of a text that begins at byte `pos`. -/
def marksFrom (pos : Nat) : List Char → List SpannedMark
  | [] => []
  | c :: cs =>
    let (mark, n) := Mark.head (c :: cs)
    let stop := pos + Utf8.size ((c :: cs).take n)
    let rest := marksFrom stop (cs.drop (n - 1))
    match mark with
    | none => rest
    | some m => (m, ⟨pos, stop⟩) :: rest
  termination_by cs => cs.length
  decreasing_by all_goals simp only [List.length_cons, List.length_drop]; omega

/-- Joins each minus sign to the mark that it touches, where `join?` has a mark for both and no operand stands in front
of the sign. `ended` tells whether an operand has just ended. -/
def joinBy (join? : Mark → Option Mark) (ended : Bool) : List SpannedMark → List SpannedMark
  | [] => []
  | [m] => [m]
  | (m, s) :: (x, r) :: rest =>
    match if m.isMinus ∧ ended = false ∧ s.stop = r.start then join? x else none with
    | some y => (y, s.through r) :: joinBy join? true rest
    | none => (m, s) :: joinBy join? m.endsOperand ((x, r) :: rest)

/-- The tokens of marks, or the span of the first mark that is none. -/
def settle : List SpannedMark → Except Span (List SpannedToken)
  | [] => .ok []
  | (m, s) :: rest =>
    match m.token? with
    | some t => (settle rest).map ((t, s) :: ·)
    | none => .error s

variable {cs : List Char} {l : Lexeme} {n pos : Nat} {t : Token} {ended : Bool} {s : Span}
  {marks : List SpannedMark} {before : List SpannedToken}

/-! ### Marks and the scanner -/

namespace Lexeme

variable {m : Nat}

/-- The text of an integer begins with a digit. -/
theorem exists_digit_of_magnitude? (h : magnitude? cs = some n) : ∃ c ds, cs = c :: ds ∧ isDigit 10 c = true := by
  unfold magnitude? at h
  split at h
  · exact ⟨_, _, rfl, by decide⟩
  · exact ⟨_, _, rfl, by decide⟩
  · cases cs with
    | nil => cases h
    | cons c ds => exact ⟨c, ds, rfl, Digits.isDigit_of_value? h c List.mem_cons_self⟩

theorem isDigit_getLast?_of_magnitude? (h : magnitude? cs = some n) : ∀ c ∈ cs.getLast?, isDigit 16 c = true := by
  have hlast {base : Nat} {ds : List Char} (h : Digits.value? base ds = some n) :
      ∃ c, ds.getLast? = some c ∧ isDigit base c = true := by
    have hne : ds ≠ [] := by
      rintro rfl
      cases h
    exact ⟨ds.getLast hne, List.getLast?_eq_some_getLast hne, Digits.isDigit_of_value? h _ (List.getLast_mem hne)⟩
  unfold magnitude? at h
  split at h
  · obtain ⟨c, hc, hdigit⟩ := hlast h
    rw [List.getLast?_cons, List.getLast?_cons, hc]
    rintro _ ⟨⟩
    exact hdigit
  · obtain ⟨c, hc, hdigit⟩ := hlast h
    rw [List.getLast?_cons, List.getLast?_cons, hc]
    rintro _ ⟨⟩
    exact hdigit
  · obtain ⟨c, hc, hdigit⟩ := hlast h
    rw [hc]
    rintro _ ⟨⟩
    exact Digits.of_isDigit hdigit (by decide)

private theorem take_succ_of_drop {c : Char} {rest : List Char} {k : Nat} (h : cs.drop k = c :: rest) :
    cs.take (k + 1) = cs.take k ++ [c] := by
  have hc : cs[k]? = some c := by
    have : (cs.drop k)[0]? = some c := by rw [h, List.getElem?_cons_zero]
    rwa [List.getElem?_drop, Nat.add_zero] at this
  rw [List.take_add_one, hc, Option.toList_some]

private theorem take_of_digits {base : Nat} (h : digits base cs = some (.unsigned n, m)) :
    ∃ ds c, cs.take m = ds ++ [c] ∧ isDigit 16 c = false := by
  unfold digits at h
  dsimp only at h
  split at h
  · cases h
  · split at h
    · rename_i hdrop
      cases h
      exact ⟨_, 'u', take_succ_of_drop hdrop, by decide⟩
    · rename_i hdrop
      cases h
      exact ⟨_, 'U', take_succ_of_drop hdrop, by decide⟩
    · cases h

/-- An unsigned integer ends with its suffix. -/
private theorem take_of_unsigned (hrec : recognise cs = some (.unsigned n, m)) :
    ∃ ds c, cs.take m = ds ++ [c] ∧ isDigit 16 c = false := by
  have hhex {cs ds : List Char} {x : Char} (hcs : cs = '0' :: x :: ds)
      (h : ((digits 16 ds).map fun p => (p.1, p.2 + 2)) = some (.unsigned n, m)) :
      ∃ ds c, cs.take m = ds ++ [c] ∧ isDigit 16 c = false := by
    obtain ⟨⟨l, k⟩, hdigits, hx⟩ := Option.map_eq_some_iff.mp h
    cases hx
    obtain ⟨es, c, htake, hc⟩ := take_of_digits hdigits
    refine ⟨'0' :: x :: es, c, ?_, hc⟩
    rw [hcs, List.take_succ_cons, List.take_succ_cons, htake]
    rfl
  rcases match_or_match_of_recognise rfl hrec with h | h
  · exact take_of_digits h
  · unfold hexadecimal at h
    split at h
    · exact hhex rfl h
    · exact hhex rfl h
    · cases h

/-- A numeral has a point or an exponent behind its first run of digits. -/
private theorem take_of_real (h : real cs = some (l, m)) :
    ∃ c ds, (c = '.' ∨ c = 'e' ∨ c = 'E') ∧ cs.take m = cs.takeWhile (isDigit 10) ++ c :: ds := by
  have htake {c : Char} {rest : List Char} (hdrop : cs.drop (Digits.runLength 10 cs) = c :: rest)
      (hlt : Digits.runLength 10 cs < m) : ∃ ds, cs.take m = cs.takeWhile (isDigit 10) ++ c :: ds := by
    obtain ⟨j, rfl⟩ := Nat.exists_eq_add_of_lt hlt
    refine ⟨rest.take j, ?_⟩
    have hrun : cs.take (Digits.runLength 10 cs) = cs.takeWhile (isDigit 10) :=
      (List.prefix_iff_eq_take.mp (List.takeWhile_prefix _)).symm
    rw [Nat.add_assoc, List.take_add, hrun, hdrop, List.take_succ_cons]
  unfold real at h
  dsimp only at h
  split at h
  · rename_i hdrop
    have hlt : Digits.runLength 10 cs < m := by
      split at h
      · cases h
        omega
      · split at h
        · cases h
          omega
        · cases h
    obtain ⟨ds, hds⟩ := htake hdrop hlt
    exact ⟨'.', ds, .inl rfl, hds⟩
  · rw [if_neg (by simp)] at h
    split at h
    · rename_i hexp
      cases h
      cases hdrop : cs.drop (Digits.runLength 10 cs) with
      | nil =>
        rw [hdrop] at hexp
        exact absurd rfl hexp.2
      | cons c rest =>
        have hc : c = 'e' ∨ c = 'E' := by
          by_contra hnot
          rw [hdrop, exponentLength_eq_zero] at hexp
          · exact hexp.2 rfl
          · rintro _ ⟨⟩
            exact not_or.mp hnot
        obtain ⟨ds, hds⟩ := htake hdrop (by omega)
        exact ⟨c, ds, .inr hc, hdrop ▸ hds⟩
    · cases h

/-- A numeral with a point or an exponent spells no integer. -/
private theorem magnitude?_of_real (h : real cs = some (l, m)) : magnitude? (cs.take m) = none := by
  obtain ⟨c, ds, hc, htake⟩ := take_of_real h
  have hdigits : ∀ d ∈ cs.takeWhile (isDigit 10), isDigit 10 d = true := fun d hd => List.mem_takeWhile_imp hd
  rw [htake]
  generalize cs.takeWhile (isDigit 10) = W at hdigits
  have hcdigit : isDigit 10 c = false := by
    rcases hc with rfl | rfl | rfl <;> decide
  -- the letter of a hexadecimal numeral is neither a digit nor what stands behind the digits
  have hhex (x : Char) (hx : x = 'x' ∨ x = 'X') (es : List Char) : W ++ c :: ds ≠ '0' :: x :: es := by
    intro heq
    rcases W with _ | ⟨d, _ | ⟨e, W⟩⟩
    · obtain ⟨rfl, -⟩ := List.cons.inj heq
      exact absurd hcdigit (by decide)
    · obtain ⟨rfl, -⟩ := List.cons.inj (List.cons.inj heq).2
      rcases hx with rfl | rfl <;> simp at hc
    · obtain ⟨rfl, -⟩ := List.cons.inj (List.cons.inj heq).2
      have := hdigits e (by simp)
      rcases hx with rfl | rfl <;> exact absurd this (by decide)
  unfold magnitude?
  split
  · rename_i heq
    exact absurd heq (hhex 'x' (.inl rfl) _)
  · rename_i heq
    exact absurd heq (hhex 'X' (.inr rfl) _)
  · rw [Option.eq_none_iff_forall_ne_some]
    intro k hk
    have := Digits.isDigit_of_value? hk c (by simp)
    rw [hcdigit] at this
    cases this

/-- A lexeme that begins with a digit is a number. -/
private theorem number_of_isDigit {c : Char} (hc : isDigit 10 c = true) (hrec : recognise (c :: cs) = some (l, m)) :
    (∃ base, l = .integer base ∨ l = .unsigned base) ∨ l = .float := by
  cases l with
  | integer base => exact .inl ⟨base, .inl rfl⟩
  | unsigned base => exact .inl ⟨base, .inr rfl⟩
  | float => exact .inr rfl
  | blank =>
    have hblank : isBlank c = false := Digits.of_isDigit hc (by decide)
    have hcomment : c ≠ '/' := Digits.of_isDigit hc (by decide)
    rcases match_or_match_of_recognise rfl hrec with hrule | hrule
    · rw [blanks_eq_none hblank] at hrule
      cases hrule
    · rw [comment_eq_none hcomment] at hrule
      cases hrule
  | quoted o =>
    have hopening : c ∉ openers := Digits.of_isDigit hc (by decide)
    cases (literalOpening_eq_none hopening).symm.trans (match_of_recognise rfl hrec)
  | word =>
    have hletter : isLetter c = false := Digits.of_isDigit hc (by decide)
    cases (words_eq_none hletter).symm.trans (match_of_recognise rfl hrec)
  | sign y =>
    have hsign : ∀ s ∈ Symbol.signs, s.text.toList.head? ≠ some c := Digits.of_isDigit hc (by decide +kernel)
    cases (symbols_eq_none hsign).symm.trans (match_of_recognise rfl hrec)

/-- A text that spells the number of an integer is no other lexeme. -/
theorem eq_integer_of_magnitude? {k : Nat} (hrec : recognise cs = some (l, m)) (h : magnitude? (cs.take m) = some k) :
    ∃ base, l = .integer base := by
  obtain ⟨c, ds, htake, hc⟩ := exists_digit_of_magnitude? h
  obtain ⟨cs, rfl⟩ : ∃ es, cs = c :: (ds ++ es) :=
    ⟨cs.drop m, by rw [← List.cons_append, ← htake, List.take_append_drop]⟩
  rcases number_of_isDigit hc hrec with ⟨base, rfl | rfl⟩ | rfl
  · exact ⟨base, rfl⟩
  · -- the suffix is no digit
    obtain ⟨es, d, htake', hd⟩ := take_of_unsigned hrec
    have := isDigit_getLast?_of_magnitude? h d (by rw [htake', List.getLast?_concat]; rfl)
    rw [hd] at this
    cases this
  · cases (magnitude?_of_real (match_of_recognise rfl hrec)).symm.trans h

/-- A character that begins no lexeme spells no integer. -/
theorem magnitude?_of_recognise_eq_none (hrec : recognise cs = none) : magnitude? (cs.take 1) = none := by
  rw [Option.eq_none_iff_forall_ne_some]
  intro k hk
  obtain ⟨c, ds, htake, hc⟩ := exists_digit_of_magnitude? hk
  cases cs with
  | nil => cases htake
  | cons d cs =>
    obtain ⟨rfl, -⟩ := List.cons.inj htake
    have hdecimal : ∃ x, decimal (d :: cs) = some x := by
      have hrun : Digits.runLength 10 (d :: cs) ≠ 0 := by
        simp [Digits.runLength, hc]
      unfold decimal digits
      dsimp only
      rw [if_neg hrun]
      split <;> exact ⟨_, rfl⟩
    obtain ⟨⟨l, n⟩, hx⟩ := hdecimal
    rw [recognise_digit hc, hx] at hrec
    have hlonger (a b : Option (Lexeme × Nat)) (h : longer a b = none) : a = none := by
      cases a with
      | none => rfl
      | some x => cases b <;> simp [longer] at h; split at h <;> cases h
    cases hlonger _ _ (hlonger _ _ hrec)

end Lexeme

namespace Scan

/-- A text that is rejected is a lexeme, or a character that begins none. -/
theorem recognise_of_reject (h : Scan.head cs = .reject n) :
    recognise cs = none ∧ n = 1 ∨ ∃ l, recognise cs = some (l, n) := by
  have hlength {o : Option Token} {k : Nat} (h : Scan.ofToken? o k = .reject n) : k = n := by
    have := congrArg length h
    rwa [length_ofToken?] at this
  unfold Scan.head at h
  split at h
  · rename_i hrec
    cases h
    exact .inl ⟨hrec, rfl⟩
  · cases h
  · rename_i hrec
    exact .inr ⟨_, hlength h ▸ hrec⟩
  · rename_i hrec
    exact .inr ⟨_, hlength h ▸ hrec⟩
  · rename_i hrec
    exact .inr ⟨_, hlength h ▸ hrec⟩
  · rename_i hrec
    split at h
    · cases h
    · cases h
      exact .inr ⟨_, hrec⟩
  · cases h
  · cases h

end Scan

namespace Mark

variable {m x : Mark}

/-- The scanner finds what the mark is without a sign. -/
theorem scan_head {mark : Option Mark} (h : head cs = (mark, n)) :
    Scan.head cs = mark.elim (.blank n) fun m => Scan.ofToken? m.token? n := by
  unfold head at h
  split at h
  · rename_i hrec
    cases h
    rw [Scan.head, hrec]
    dsimp only [Option.elim]
    congr 1
    unfold Lexeme.integerToken? ofInteger
    cases Lexeme.magnitude? (cs.take n) with
    | none => rfl
    | some k =>
      by_cases hk : k ≤ Lexeme.leastMagnitude
      · simp [hk, token?]
      · have hlt : ¬ k < Lexeme.leastMagnitude := by omega
        simp [hk, hlt, token?]
  · split at h <;> (cases h; assumption)

/-- Among the marks that are no tokens, the magnitude of the least integer is told by its text. -/
theorem isSome_least?_iff (h : head cs = (some m, n)) (hm : m.token? = none) :
    m.least?.isSome = true ↔ Lexeme.magnitude? (cs.take n) = some Lexeme.leastMagnitude := by
  unfold head at h
  split at h
  · cases h
    unfold ofInteger at hm ⊢
    cases Lexeme.magnitude? (cs.take n) with
    | none => simp [least?]
    | some k =>
      by_cases hk : k ≤ Lexeme.leastMagnitude
      · simp [hk, least?]
      · have hne : k ≠ Lexeme.leastMagnitude := by omega
        simp [hk, hne, least?]
  · rename_i hinteger
    have hnone (h : Scan.head cs = .reject n) : Lexeme.magnitude? (cs.take n) = none := by
      rw [Option.eq_none_iff_forall_ne_some]
      intro k hk
      rcases Scan.recognise_of_reject h with ⟨hrec, rfl⟩ | ⟨l, hrec⟩
      · rw [Lexeme.magnitude?_of_recognise_eq_none hrec] at hk
        cases hk
      · obtain ⟨base, rfl⟩ := Lexeme.eq_integer_of_magnitude? hrec hk
        exact hinteger base n hrec
    split at h
    · cases h
    · cases h
      cases hm
    · rename_i hhead
      cases h
      rw [hnone hhead]
      simp [least?]

theorem isMinus_iff : m.isMinus = true ↔ m = token (.symbol .minus) := by
  constructor
  · intro h
    unfold isMinus at h
    split at h
    · rfl
    · cases h
  · rintro rfl
    rfl

theorem eq_minus_of_token? (h : m.token? = some (.symbol .minus)) : m = token (.symbol .minus) := by
  cases m with
  | token u =>
    cases h
    rfl
  | magnitude n =>
    rw [token?] at h
    split at h <;> cases h
  | fault => cases h

theorem least?_eq_some_iff : m.least? = some x ↔
    m = magnitude Lexeme.leastMagnitude ∧ x = token (.literal (.int Int64.minValue)) := by
  cases m with
  | magnitude n =>
    rw [least?]
    split
    · rename_i hn
      simp [hn, eq_comm]
    · rename_i hn
      simp [hn]
  | token u => simp [least?]
  | fault => simp [least?]

theorem least?_of_token? (h : m.token? = some t) : m.least? = none := by
  rw [Option.eq_none_iff_forall_ne_some]
  intro x hx
  rw [(least?_eq_some_iff.mp hx).1, token?, if_neg (Nat.lt_irrefl _)] at h
  cases h

/-- A mark ends an operand as its token does. -/
theorem endsOperand_of_token? (h : m.token? = some t) : m.endsOperand = t.endsOperand := by
  cases m with
  | token u =>
    cases h
    rfl
  | magnitude n =>
    rw [token?] at h
    split at h
    · cases h
      rfl
    · cases h
  | fault => cases h

end Mark

/-! ### Where marks stand -/

namespace Mark

theorem head_bounds {mark : Option Mark} (hne : cs ≠ []) (h : head cs = (mark, n)) : 0 < n ∧ n ≤ cs.length := by
  have hbounds := Scan.length_head hne
  rw [scan_head h] at hbounds
  cases mark with
  | none => exact hbounds
  | some m => rwa [Option.elim_some, Scan.length_ofToken?] at hbounds

end Mark

theorem marksFrom_nil : marksFrom pos [] = [] := by
  rw [marksFrom.eq_def]

theorem marksFrom_blank {c : Char} (h : Mark.head (c :: cs) = (none, n)) :
    marksFrom pos (c :: cs) = marksFrom (pos + Utf8.size ((c :: cs).take n)) (cs.drop (n - 1)) := by
  rw [marksFrom.eq_def]
  simp only [h]

theorem marksFrom_mark {c : Char} {m : Mark} (h : Mark.head (c :: cs) = (some m, n)) :
    marksFrom pos (c :: cs) = (m, ⟨pos, pos + Utf8.size ((c :: cs).take n)⟩) ::
      marksFrom (pos + Utf8.size ((c :: cs).take n)) (cs.drop (n - 1)) := by
  rw [marksFrom.eq_def]
  simp only [h]

section Marked

variable {w r : List Char} {m : Mark}

/-- The head of a text is a part of it. -/
private theorem exists_head (hne : cs ≠ []) :
    ∃ mark w r, cs = w ++ r ∧ w ≠ [] ∧ Mark.head (w ++ r) = (mark, w.length) := by
  rcases hhead : Mark.head cs with ⟨mark, n⟩
  obtain ⟨hpos, hle⟩ := Mark.head_bounds hne hhead
  have hlen : (cs.take n).length = n := List.length_take_of_le hle
  refine ⟨mark, cs.take n, cs.drop n, (List.take_append_drop n cs).symm, List.length_pos_iff.mp (by omega), ?_⟩
  rw [List.take_append_drop, hhead, hlen]

theorem marksFrom_append_blank (hw : w ≠ []) (h : Mark.head (w ++ r) = (none, w.length)) :
    marksFrom pos (w ++ r) = marksFrom (pos + Utf8.size w) r := by
  obtain ⟨c, w, rfl⟩ := List.exists_cons_of_ne_nil hw
  rw [List.cons_append] at h
  rw [List.cons_append, marksFrom_blank h, ← List.cons_append, List.take_left, List.length_cons, Nat.add_sub_cancel,
    List.drop_left]

theorem marksFrom_append_mark (hw : w ≠ []) (h : Mark.head (w ++ r) = (some m, w.length)) :
    marksFrom pos (w ++ r) = (m, ⟨pos, pos + Utf8.size w⟩) :: marksFrom (pos + Utf8.size w) r := by
  obtain ⟨c, w, rfl⟩ := List.exists_cons_of_ne_nil hw
  rw [List.cons_append] at h
  rw [List.cons_append, marksFrom_mark h, ← List.cons_append, List.take_left, List.length_cons, Nat.add_sub_cancel,
    List.drop_left]

/-- The marks of a text, read off its head one by one. -/
inductive Marked : Nat → List Char → List SpannedMark → Prop
  | nil {pos : Nat} : Marked pos [] []
  | blank {pos : Nat} {w r : List Char} {marks : List SpannedMark} (hw : w ≠ [])
      (hhead : Mark.head (w ++ r) = (none, w.length)) (h : Marked (pos + Utf8.size w) r marks) :
      Marked pos (w ++ r) marks
  | mark {pos : Nat} {w r : List Char} {m : Mark} {marks : List SpannedMark} (hw : w ≠ [])
      (hhead : Mark.head (w ++ r) = (some m, w.length)) (h : Marked (pos + Utf8.size w) r marks) :
      Marked pos (w ++ r) ((m, ⟨pos, pos + Utf8.size w⟩) :: marks)

theorem marked_marksFrom (pos : Nat) (cs : List Char) : Marked pos cs (marksFrom pos cs) := by
  induction hlen : cs.length using Nat.strong_induction_on generalizing pos cs with
  | _ len ih =>
    by_cases hne : cs = []
    · subst hne
      rw [marksFrom_nil]
      exact .nil
    · obtain ⟨mark, w, r, rfl, hw, hhead⟩ := exists_head hne
      have hlt : r.length < len := by
        have := List.length_pos_iff.mpr hw
        rw [← hlen, List.length_append]
        omega
      cases mark with
      | none =>
        rw [marksFrom_append_blank hw hhead]
        exact .blank hw hhead (ih _ hlt _ _ rfl)
      | some m =>
        rw [marksFrom_append_mark hw hhead]
        exact .mark hw hhead (ih _ hlt _ _ rfl)

theorem Marked.eq_marksFrom (h : Marked pos cs marks) : marks = marksFrom pos cs := by
  induction h with
  | nil => rw [marksFrom_nil]
  | blank hw hhead _ ih => rw [ih, marksFrom_append_blank hw hhead]
  | mark hw hhead _ ih => rw [ih, marksFrom_append_mark hw hhead]

/-- Each mark is found at the head of the text that begins at its span, and reaches to the end of the span. -/
theorem exists_slice_of_mem_marksFrom (front cs : List Char)
    (h : (m, s) ∈ marksFrom (Utf8.size front) cs) : ∃ l w r, front ++ cs = l ++ (w ++ r) ∧
      s = ⟨Utf8.size l, Utf8.size l + Utf8.size w⟩ ∧ Mark.head (w ++ r) = (some m, w.length) := by
  have hmarked := marked_marksFrom (Utf8.size front) cs
  generalize hpos : Utf8.size front = pos at h hmarked
  generalize marksFrom pos cs = marks at h hmarked
  induction hmarked generalizing front with
  | nil => cases h
  | @blank _ w r _ hw hhead _ ih =>
    have := ih (front ++ w) (by rw [Utf8.size_append, hpos]) h
    rwa [List.append_assoc] at this
  | @mark _ w r _ _ hw hhead _ ih =>
    rcases List.mem_cons.mp h with heq | h
    · cases heq
      exact ⟨front, w, r, rfl, by rw [hpos], hhead⟩
    · have := ih (front ++ w) (by rw [Utf8.size_append, hpos]) h
      rwa [List.append_assoc] at this

end Marked

/-! ### Joining -/

section Joining

variable {join? : Mark → Option Mark} {m x y : Mark} {r : Span} {rest : List SpannedMark}

theorem joinBy_cons (h : ∀ u ∈ rest.head?, m.isMinus = true → ended = false → s.stop = u.2.start → join? u.1 = none) :
    joinBy join? ended ((m, s) :: rest) = (m, s) :: joinBy join? m.endsOperand rest := by
  cases rest with
  | nil => rfl
  | cons u rest =>
    have hjoin : (if m.isMinus ∧ ended = false ∧ s.stop = u.2.start then join? u.1 else none) = none := by
      split
      · rename_i hcond
        exact h u rfl hcond.1 hcond.2.1 hcond.2.2
      · rfl
    rw [joinBy, hjoin]

theorem joinBy_join (hm : m.isMinus = true) (hs : s.stop = r.start) (hx : join? x = some y) :
    joinBy join? false ((m, s) :: (x, r) :: rest) = (y, s.through r) :: joinBy join? true rest := by
  rw [joinBy, if_pos ⟨hm, rfl, hs⟩, hx]

theorem settle_token (h : m.token? = some t) (s : Span) (rest : List SpannedMark) :
    settle ((m, s) :: rest) = (settle rest).map ((t, s) :: ·) := by
  rw [settle, h]

theorem settle_eq_ok {tokens : List SpannedToken} (h : settle ((m, s) :: rest) = .ok tokens) :
    ∃ t more, m.token? = some t ∧ settle rest = .ok more ∧ tokens = (t, s) :: more := by
  rw [settle] at h
  split at h
  · rename_i t ht
    cases hrest : settle rest with
    | error e =>
      rw [hrest] at h
      cases h
    | ok more =>
      rw [hrest] at h
      cases h
      exact ⟨t, more, ht, rfl, rfl⟩
  · cases h

theorem settle_eq_error {e : Span} (h : settle ((m, s) :: rest) = .error e) :
    m.token? = none ∧ s = e ∨ ∃ t, m.token? = some t ∧ settle rest = .error e := by
  rw [settle] at h
  split at h
  · rename_i t ht
    cases hrest : settle rest with
    | error e' =>
      rw [hrest] at h
      cases h
      exact .inr ⟨t, ht, rfl⟩
    | ok more =>
      rw [hrest] at h
      cases h
  · rename_i ht
    cases h
    exact .inl ⟨ht, rfl⟩

theorem settle_fault (h : m.token? = none) (s : Span) (rest : List SpannedMark) :
    settle ((m, s) :: rest) = .error s := by
  rw [settle, h]

end Joining

/-! ### The scanner -/

/-- Whether the tokens read so far, the last one first, end with an operand. -/
def operandEnded (before : List SpannedToken) : Bool := before.head?.any fun t => t.1.endsOperand

/-- The tokens read so far, the last one first, and those of the marks behind them, with the least integer joined. -/
def scanned (before : List SpannedToken) (marks : List SpannedMark) : Except Span (List SpannedToken) :=
  (settle (joinBy Mark.least? (operandEnded before) marks)).map (before.reverse ++ ·)

section Scanner

variable {m : Mark} {r : Span} {rest : List SpannedMark} {c : Char}

/-- A mark whose token is not joined to the next one has been read. -/
theorem scanned_cons (hm : m.token? = some t)
    (h : ∀ u ∈ rest.head?, m.isMinus = true → operandEnded before = false → s.stop = u.2.start → u.1.least? = none) :
    scanned before ((m, s) :: rest) = scanned ((t, s) :: before) rest := by
  have hended : operandEnded ((t, s) :: before) = m.endsOperand := (Mark.endsOperand_of_token? hm).symm
  rw [scanned, joinBy_cons h, settle_token hm, scanned, hended]
  cases settle (joinBy Mark.least? m.endsOperand rest) with
  | error e => rfl
  | ok tokens => simp [Except.map]

theorem scanned_fault (hm : m.token? = none) : scanned before ((m, s) :: rest) = .error s := by
  have hminus : m.isMinus = false := by
    rw [Bool.eq_false_iff]
    intro h
    rw [Mark.isMinus_iff.mp h] at hm
    cases hm
  rw [scanned, joinBy_cons (by simp [hminus]), settle_fault hm]
  rfl

/-- The sign in front of the least magnitude is joined. -/
theorem scanned_least (hm : m.least? = some (.token t)) (ht : t.endsOperand = true)
    (hbefore : operandEnded before = false) (hs : s.stop = r.start) :
    scanned before ((.token (.symbol .minus), s) :: (m, r) :: rest) = scanned ((t, s.through r) :: before) rest := by
  have hended : operandEnded ((t, s.through r) :: before) = true := ht
  rw [scanned, hbefore, joinBy_join rfl hs hm, settle_token rfl, scanned, hended]
  cases settle (joinBy Mark.least? true rest) with
  | error e => rfl
  | ok tokens => simp [Except.map]

theorem scanFrom_mark (h : Mark.head (c :: cs) = (some m, n)) (hm : m.token? = some t) :
    Lexer.scanFrom pos before (c :: cs) =
      Lexer.scanFrom (pos + Utf8.size ((c :: cs).take n))
        ((t, ⟨pos, pos + Utf8.size ((c :: cs).take n)⟩) :: before) (cs.drop (n - 1)) := by
  have hhead := Mark.scan_head h
  rw [Option.elim_some, hm] at hhead
  rw [Lexer.scanFrom.eq_def]
  simp only [hhead, Scan.ofToken?]

theorem scanFrom_blank_mark (h : Mark.head (c :: cs) = (none, n)) :
    Lexer.scanFrom pos before (c :: cs) =
      Lexer.scanFrom (pos + Utf8.size ((c :: cs).take n)) before (cs.drop (n - 1)) := by
  have hhead := Mark.scan_head h
  rw [Option.elim_none] at hhead
  rw [Lexer.scanFrom.eq_def]
  simp only [hhead]

theorem scanFrom_reject (h : Mark.head (c :: cs) = (some m, n)) (hm : m.token? = none) :
    Lexer.scanFrom pos before (c :: cs) =
      (Lexer.joinLeast? before ((c :: cs).take n) ⟨pos, pos + Utf8.size ((c :: cs).take n)⟩).elim
        (.error ⟨String.ofList ((c :: cs).take n), ⟨pos, pos + Utf8.size ((c :: cs).take n)⟩⟩)
        fun joined => Lexer.scanFrom (pos + Utf8.size ((c :: cs).take n)) joined (cs.drop (n - 1)) := by
  have hhead := Mark.scan_head h
  rw [Option.elim_some, hm] at hhead
  rw [Lexer.scanFrom.eq_def]
  simp only [hhead, Scan.ofToken?]
  split
  · rename_i hjoin
    rw [hjoin]
    rfl
  · rename_i hjoin
    rw [hjoin]
    rfl

theorem joinLeast?_eq_none {text : List Char} (h : ∀ u ∈ before.head?, u.1 ≠ .symbol .minus) :
    Lexer.joinLeast? before text s = none := by
  unfold Lexer.joinLeast?
  split
  · split
    · exact absurd rfl (h _ rfl)
    · rfl
  · rfl

theorem joinLeast?_minus {text : List Char} :
    Lexer.joinLeast? ((.symbol .minus, s) :: before) text r =
      if Lexeme.magnitude? text = some Lexeme.leastMagnitude ∧ operandEnded before = false ∧ s.stop = r.start then
        some ((.literal (.int Int64.minValue), s.through r) :: before)
      else none := by
  unfold Lexer.joinLeast? operandEnded
  by_cases hmagnitude : Lexeme.magnitude? text = some Lexeme.leastMagnitude
  · simp [hmagnitude, and_comm]
  · simp [hmagnitude]

/-- The scanner finds the tokens of the marks of the text once the least integer is joined. A sign that has been read
last may still be joined. -/
def ScansAsMarks (pos : Nat) (cs : List Char) : Prop :=
  ∀ before, ((∀ u ∈ before.head?, u.1 ≠ .symbol .minus) →
      (Lexer.scanFrom pos before cs).mapError LexError.span = scanned before (marksFrom pos cs)) ∧
    ∀ s, (Lexer.scanFrom pos ((.symbol .minus, s) :: before) cs).mapError LexError.span =
      scanned before ((.token (.symbol .minus), s) :: marksFrom pos cs)

private theorem scansAsMarks_nil : ScansAsMarks pos [] := by
  intro before
  have hnil (before : List SpannedToken) :
      (Lexer.scanFrom pos before []).mapError LexError.span = scanned before [] := by
    rw [Lexer.scanFrom.eq_def]
    simp [scanned, joinBy, settle, Except.map, Except.mapError]
  constructor
  · intro _
    rw [hnil, marksFrom_nil]
  · intro s
    rw [hnil, marksFrom_nil, scanned_cons rfl (by simp)]

private theorem scansAsMarks_blank (h : Mark.head (c :: cs) = (none, n))
    (ih : ScansAsMarks (pos + Utf8.size ((c :: cs).take n)) (cs.drop (n - 1))) : ScansAsMarks pos (c :: cs) := by
  intro before
  constructor
  · intro hbefore
    rw [scanFrom_blank_mark h, marksFrom_blank h]
    exact (ih _).1 hbefore
  · intro s
    rw [scanFrom_blank_mark h, marksFrom_blank h]
    exact (ih _).2 s

private theorem scansAsMarks_token (h : Mark.head (c :: cs) = (some m, n)) (hm : m.token? = some t)
    (ih : ScansAsMarks (pos + Utf8.size ((c :: cs).take n)) (cs.drop (n - 1))) : ScansAsMarks pos (c :: cs) := by
  -- a token is put behind what has been read, whatever that is
  have hstep (before : List SpannedToken) :
      (Lexer.scanFrom pos before (c :: cs)).mapError LexError.span = scanned before (marksFrom pos (c :: cs)) := by
    rw [scanFrom_mark h hm, marksFrom_mark h]
    by_cases ht : t = .symbol .minus
    · subst ht
      obtain rfl := Mark.eq_minus_of_token? hm
      exact (ih _).2 _
    · have hminus : m.isMinus = true → False := by
        intro h
        rw [Mark.isMinus_iff.mp h] at hm
        exact ht (Option.some.inj hm).symm
      rw [scanned_cons hm fun _ _ h => (hminus h).elim]
      refine (ih _).1 ?_
      rintro _ ⟨⟩
      exact ht
  intro before
  constructor
  · intro _
    exact hstep before
  · intro s
    rw [hstep]
    refine (scanned_cons (m := .token (.symbol .minus)) rfl ?_).symm
    rw [marksFrom_mark h]
    rintro _ ⟨⟩ - - -
    exact Mark.least?_of_token? hm

private theorem scansAsMarks_fault (h : Mark.head (c :: cs) = (some m, n)) (hm : m.token? = none)
    (ih : ScansAsMarks (pos + Utf8.size ((c :: cs).take n)) (cs.drop (n - 1))) : ScansAsMarks pos (c :: cs) := by
  have hmagnitude := Mark.isSome_least?_iff h hm
  intro before
  rw [marksFrom_mark h]
  constructor
  · intro hbefore
    rw [scanFrom_reject h hm, joinLeast?_eq_none hbefore, scanned_fault hm]
    rfl
  · intro s
    rw [scanFrom_reject h hm, joinLeast?_minus]
    by_cases hjoin : m.least?.isSome = true ∧ operandEnded before = false ∧ s.stop = pos
    · obtain ⟨hleast, hbefore, hs⟩ := hjoin
      obtain ⟨x, hx⟩ := Option.isSome_iff_exists.mp hleast
      obtain ⟨-, rfl⟩ := Mark.least?_eq_some_iff.mp hx
      rw [if_pos ⟨hmagnitude.mp hleast, hbefore, hs⟩, scanned_least hx rfl hbefore hs]
      refine (ih _).1 ?_
      rintro _ ⟨⟩
      nofun
    · rw [if_neg fun hnot => hjoin ⟨hmagnitude.mpr hnot.1, hnot.2⟩,
        scanned_cons (m := .token (.symbol .minus)) rfl, scanned_fault hm]
      · rfl
      · rintro _ ⟨⟩ - hbefore hs
        by_contra hsome
        exact hjoin ⟨Option.isSome_iff_ne_none.mpr hsome, hbefore, hs⟩

theorem scansAsMarks (pos : Nat) (cs : List Char) : ScansAsMarks pos cs := by
  induction hlen : cs.length using Nat.strong_induction_on generalizing pos cs with
  | _ len ih =>
    cases cs with
    | nil => exact scansAsMarks_nil
    | cons c cs =>
      have ih (pos k : Nat) : ScansAsMarks pos (cs.drop (k - 1)) := by
        refine ih (cs.drop (k - 1)).length ?_ pos _ rfl
        rw [← hlen, List.length_cons, List.length_drop]
        omega
      rcases hhead : Mark.head (c :: cs) with ⟨_ | m, n⟩
      · exact scansAsMarks_blank hhead (ih _ n)
      · cases hm : m.token? with
        | some t => exact scansAsMarks_token hhead hm (ih _ n)
        | none => exact scansAsMarks_fault hhead hm (ih _ n)

end Scanner

end ExprLang
