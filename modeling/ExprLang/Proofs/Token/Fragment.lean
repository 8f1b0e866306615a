import Mathlib.Data.String.Basic
import ExprLang.Proofs.Token.BeforeBlank
import ExprLang.Proofs.Token.Joining

/-!
# Tokens in the words of the text

Each token of a text is read again from the text at its span, alone and among the others with blanks between them
(`lex_fragments`). What is recognised in front of a blank does not depend on what stood there before
(`Mark.head_append`), so the text at a span is one mark, or a sign and the mark that it is joined to (`IsFragment`).
-/

namespace ExprLang

open Lexeme (BlankAhead recognise)

variable {u r r' w v cs : List Char} {n pos : Nat} {t : Token} {m x : Mark} {s : Span} {ended : Bool}
  {marks rest : List SpannedMark} {tokens : List SpannedToken}

/-! ### Marks in front of a blank -/

namespace Scan

/-- The lexeme of a token is within its text. -/
private theorem recognise_of_token (h : head cs = .token t n) :
    ∃ l k, recognise cs = some (l, k) ∧ l ≠ .blank ∧ k ≤ n := by
  have hquoted {o : Opening} {k : Nat} {rest : List Char} (hrec : recognise cs = some (.quoted o, k))
      (hbody : Lexeme.quotedToken? o (cs.drop k) = some (t, rest)) : k ≤ cs.length - rest.length :=
    Lexeme.opening_le_of_quotedToken? (Lexeme.bounded_recognise cs _ _ hrec).2 hbody
  cases tokenOf_head h with
  | string hrec hbody => exact ⟨_, _, hrec, nofun, hquoted hrec hbody⟩
  | bytes hrec hbody => exact ⟨_, _, hrec, nofun, hquoted hrec hbody⟩
  | integer hrec | unsigned hrec | float hrec | word hrec | symbol hrec => exact ⟨_, _, hrec, nofun, Nat.le_refl _⟩

/-- A token within a text is found whatever stands behind the text, if that is set off by a blank. -/
theorem head_append (hr : BlankAhead r') (hn : n ≤ u.length) (h : head (u ++ r) = .token t n) :
    head (u ++ r') = .token t n ∧ recognise (u ++ r') = recognise (u ++ r) := by
  obtain ⟨l, k, hrec, hl, hk⟩ := recognise_of_token h
  have hk : k ≤ u.length := hk.trans hn
  have hrec' := Lexeme.recognise_append hr hl hrec hk
  refine ⟨?_, hrec'.trans hrec.symm⟩
  have htake (cs : List Char) : (u ++ cs).take k = u.take k := List.take_append_of_le_length hk
  have hdrop (cs : List Char) : (u ++ cs).drop k = u.drop k ++ cs := List.drop_append_of_le_length hk
  unfold head at h ⊢
  rw [hrec] at h
  rw [hrec']
  cases l with
  | blank => exact absurd rfl hl
  | integer base | unsigned base | float =>
    obtain ⟨htoken, rfl⟩ := ofToken?_eq_token_iff.mp h
    rw [htake] at htoken
    dsimp only
    rw [htake, htoken]
    rfl
  | quoted o =>
    dsimp only at h ⊢
    rw [hdrop] at h ⊢
    split at h
    · rename_i t' rest htoken
      obtain ⟨rfl, rfl⟩ := token.inj h
      rw [List.length_append] at hn
      obtain ⟨d, rfl, happend⟩ := (Lexeme.isLocal_quotedToken? o).append htoken (by omega)
      rw [happend]
      dsimp only
      congr 1
      simp only [List.length_append]
      omega
    · cases h
  | word =>
    obtain ⟨ht, rfl⟩ := token.inj h
    dsimp only
    rw [htake] at ht ⊢
    rw [ht]
  | sign y => exact h

/-- Only the sign itself is read as a minus sign. -/
private theorem take_of_minus (h : head cs = .token (.symbol .minus) n) : cs.take n = ['-'] := by
  generalize ht : Token.symbol .minus = t at h
  cases tokenOf_head h with
  | word hrec =>
    unfold Token.ofWord at ht
    split_ifs at ht
    cases ht
  | symbol hrec =>
    cases ht
    have hrule : Lexeme.symbols cs = _ := Lexeme.match_of_recognise rfl hrec
    obtain ⟨y, hfind, hy⟩ := Option.map_eq_some_iff.mp hrule
    cases hy
    have hspelt : Symbol.minus.text.toList.isPrefixOf cs = true := by simpa using List.find?_some hfind
    exact (List.prefix_iff_eq_take.mp (List.isPrefixOf_iff_prefix.mp hspelt)).symm
  | _ => cases ht

end Scan

/-- A mark within a text is found whatever stands behind the text, if that is set off by a blank. -/
theorem Mark.head_append (hr : BlankAhead r') (hn : n ≤ u.length) (hm : m ≠ .fault)
    (h : Mark.head (u ++ r) = (some m, n)) : Mark.head (u ++ r') = (some m, n) := by
  unfold Mark.head at h
  split at h
  · rename_i base k hrec
    obtain ⟨hm, rfl⟩ := Prod.mk.inj h
    have hl : Lexeme.integer base ≠ .blank := nofun
    have hrec' := Lexeme.recognise_append hr hl hrec hn
    rw [List.take_append_of_le_length hn] at hm
    rw [Mark.head, hrec']
    dsimp only
    rw [List.take_append_of_le_length hn, hm]
  · rename_i hinteger
    split at h
    · cases h
    · rename_i hhead
      obtain ⟨hm, rfl⟩ := Prod.mk.inj h
      obtain ⟨hhead', hrec⟩ := Scan.head_append hr hn hhead
      unfold Mark.head
      split
      · rename_i hrec'
        rw [hrec] at hrec'
        exact absurd hrec' (hinteger _ _)
      · rw [hhead']
        dsimp only
        rw [hm]
    · cases h
      exact absurd rfl hm

/-- The text is the mark where nothing or a blank stands behind it. -/
def Stands (w : List Char) (m : Mark) : Prop := ∀ r, BlankAhead r → Mark.head (w ++ r) = (some m, w.length)

theorem stands_of_head (hm : m ≠ .fault) (h : Mark.head (w ++ r) = (some m, w.length)) : Stands w m :=
  fun _ hr' => Mark.head_append hr' (Nat.le_refl _) hm h

theorem scan_head_of_stands (h : Stands w m) (ht : m.token? = some t) : Scan.head w = .token t w.length := by
  have hhead := Mark.scan_head (h [] nofun)
  rwa [List.append_nil, Option.elim_some, ht] at hhead

theorem eq_of_stands_minus (h : Stands w (.token (.symbol .minus))) : w = ['-'] := by
  have htake := Scan.take_of_minus (scan_head_of_stands h rfl)
  rwa [List.take_length] at htake

theorem isBlank_of_stands {c : Char} (h : Stands (c :: w) m) : Lexeme.isBlank c = false := by
  rw [Bool.eq_false_iff]
  intro hc
  have hhead := Mark.scan_head (h [] nofun)
  rw [List.append_nil, Lexer.head_blank hc] at hhead
  cases ht : m.token? <;> rw [Option.elim_some, ht] at hhead <;> cases hhead

/-! ### The text at a span -/

/-- The text `w` stands in the text `cs` where the span says. -/
def IsSlice (cs : List Char) (s : Span) (w : List Char) : Prop :=
  ∃ l r, cs = l ++ (w ++ r) ∧ s = ⟨Utf8.size l, Utf8.size l + Utf8.size w⟩

theorem eq_nil_of_size_eq_zero (h : Utf8.size w = 0) : w = [] := by
  cases w with
  | nil => rfl
  | cons c w =>
    have := c.utf8Size_pos
    rw [Utf8.size_cons] at h
    omega

/-- Where a text is cut is told by the number of bytes in front. -/
theorem eq_of_size_eq {l l' r r' : List Char} (h : l ++ r = l' ++ r') (hsize : Utf8.size l = Utf8.size l') :
    l = l' ∧ r = r' := by
  have hcut {l l' d : List Char} (hl : l' = l ++ d) (hsize : Utf8.size l = Utf8.size l') : d = [] := by
    rw [hl, Utf8.size_append] at hsize
    exact eq_nil_of_size_eq_zero (by omega)
  rcases List.append_eq_append_iff.mp h with ⟨d, hl, hr⟩ | ⟨d, hl, hr⟩
  · obtain rfl := hcut hl hsize
    exact ⟨by rw [hl, List.append_nil], hr⟩
  · obtain rfl := hcut hl hsize.symm
    exact ⟨by rw [hl, List.append_nil], hr.symm⟩

theorem IsSlice.through {r : Span} (hw : IsSlice cs s w) (hv : IsSlice cs r v) (h : s.stop = r.start) :
    IsSlice cs (s.through r) (w ++ v) := by
  obtain ⟨l, q, hcs, rfl⟩ := hw
  obtain ⟨l', q', hcs', rfl⟩ := hv
  have hcut : (l ++ w) ++ q = l' ++ (v ++ q') := by rw [List.append_assoc, ← hcs, hcs']
  have hsize : Utf8.size (l ++ w) = Utf8.size l' := by
    rw [Utf8.size_append]
    exact h
  obtain ⟨rfl, rfl⟩ := eq_of_size_eq hcut hsize
  refine ⟨l, q', ?_, ?_⟩
  · rw [hcs, List.append_assoc]
  · rw [Span.through, Utf8.size_append, Utf8.size_append, Nat.add_assoc]

/-! ### Fragments -/

/-- The text is one mark that is the token, or a sign and a mark that are joined to the token where no operand has just
ended. -/
inductive IsFragment (ended : Bool) (w : List Char) (t : Token) : Prop
  | mark {m : Mark} (hw : Stands w m) (ht : m.token? = some t)
  | joined {v : List Char} {x : Mark} (hw : w = '-' :: v) (hv : Stands v x) (hx : x.negated? = some (.token t))
      (hended : ended = false)

/-- The texts at the spans of the tokens are fragments, one behind the other. -/
def Fragments (cs : List Char) (ended : Bool) : List SpannedToken → Prop
  | [] => True
  | (t, s) :: rest => (∃ w, IsSlice cs s w ∧ IsFragment ended w t) ∧ Fragments cs t.endsOperand rest

theorem exists_literal_of_negated? {y : Mark} (h : x.negated? = some y) :
    x ≠ .fault ∧ ∃ l, y = .token (.literal l) := by
  unfold Mark.negated? at h
  split at h
  · cases h
    exact ⟨nofun, _, rfl⟩
  · cases h
    exact ⟨nofun, _, rfl⟩
  · cases h

private theorem isFragment_mark (ht : m.token? = some t) (hm : m ≠ .fault → Stands w m) : IsFragment ended w t := by
  refine .mark (hm ?_) ht
  rintro rfl
  cases ht

/-- The tokens of marks that are found at their spans are fragments. -/
theorem fragments_of_settle (hmarks : ∀ u ∈ marks, ∃ w, IsSlice cs u.2 w ∧ (u.1 ≠ .fault → Stands w u.1))
    (h : settle (joinBy Mark.negated? ended marks) = .ok tokens) : Fragments cs ended tokens := by
  fun_induction joinBy Mark.negated? ended marks generalizing tokens with
  | case1 =>
    cases h
    trivial
  | case2 ended m =>
    obtain ⟨m, s⟩ := m
    obtain ⟨w, hw, hm⟩ := hmarks _ List.mem_cons_self
    obtain ⟨t, more, ht, hmore, rfl⟩ := settle_eq_ok h
    cases hmore
    exact ⟨⟨w, hw, isFragment_mark ht hm⟩, trivial⟩
  | case3 ended m s x r rest y hjoin ih =>
    split at hjoin
    · rename_i hcond
      obtain ⟨hm, rfl, hs⟩ := hcond
      obtain rfl := Mark.isMinus_iff.mp hm
      obtain ⟨hfault, l, rfl⟩ := exists_literal_of_negated? hjoin
      obtain ⟨w, hw, hminus⟩ := hmarks _ List.mem_cons_self
      obtain ⟨v, hv, hx⟩ := hmarks (x, r) (by simp)
      have hne : Mark.token (.symbol .minus) ≠ .fault := by
        rintro ⟨⟩
      obtain rfl := eq_of_stands_minus (hminus hne)
      obtain ⟨t, more, ht, hmore, rfl⟩ := settle_eq_ok h
      cases ht
      -- the sign and the number touch, so their texts are one
      exact ⟨⟨_, hw.through hv hs, .joined rfl (hx hfault) hjoin rfl⟩, ih (fun u hu => hmarks u (by simp [hu])) hmore⟩
    · cases hjoin
  | case4 ended m s x r rest hjoin ih =>
    obtain ⟨w, hw, hm⟩ := hmarks _ List.mem_cons_self
    obtain ⟨t, more, ht, hmore, rfl⟩ := settle_eq_ok h
    have hmore := ih (fun u hu => hmarks u (List.mem_cons_of_mem _ hu)) hmore
    rw [Mark.endsOperand_of_token? ht] at hmore
    exact ⟨⟨w, hw, isFragment_mark ht hm⟩, hmore⟩

/-- The tokens of a text are fragments of it. -/
theorem fragments_of_joinBy (h : settle (joinBy Mark.negated? false (marksFrom 0 cs)) = .ok tokens) :
    Fragments cs false tokens := by
  refine fragments_of_settle ?_ h
  rintro ⟨m, s⟩ hmem
  obtain ⟨l, w, r, hcs, rfl, hhead⟩ := exists_slice_of_mem_marksFrom [] cs hmem
  exact ⟨w, ⟨l, r, hcs, rfl⟩, fun hm => stands_of_head hm hhead⟩

/-! ### Reading fragments -/

theorem ne_nil_of_stands (h : Stands w m) : w ≠ [] := by
  rintro rfl
  have hhead := h [' '] (by simp [BlankAhead, Lexeme.isBlank])
  have := (Mark.head_bounds (by simp) hhead).1
  exact absurd this (Nat.lt_irrefl 0)

private theorem marksFrom_stands (hr : BlankAhead r) (h : Stands w m) :
    marksFrom pos (w ++ r) = (m, ⟨pos, pos + Utf8.size w⟩) :: marksFrom (pos + Utf8.size w) r :=
  marksFrom_append_mark (ne_nil_of_stands h) (h r hr)

/-- What the scanner passes over is no mark. -/
theorem Mark.head_of_blank (h : Scan.head cs = .blank n) : Mark.head cs = (none, n) := by
  rcases hmark : Mark.head cs with ⟨mark, k⟩
  have hscan := Mark.scan_head hmark
  rw [h] at hscan
  cases mark with
  | none =>
    cases hscan
    rfl
  | some m => cases ht : m.token? <;> rw [Option.elim_some, ht] at hscan <;> cases hscan

/-- A single blank is passed over. -/
private theorem marksFrom_space (hr : ∀ c ∈ r.head?, Lexeme.isBlank c = false) :
    marksFrom pos (' ' :: r) = marksFrom (pos + 1) r := by
  have hnone : r.takeWhile Lexeme.isBlank = [] := by
    cases r with
    | nil => rfl
    | cons c r => rw [List.takeWhile_cons_of_neg (by simp [hr c rfl])]
  have hblank := Mark.head_of_blank (Lexer.head_blank (c := ' ') rfl r)
  rw [hnone] at hblank
  rw [marksFrom_blank hblank]
  rfl

private theorem head_minus (cs : List Char) : Mark.head ('-' :: cs) = (some (.token (.symbol .minus)), 1) := rfl

/-- A fragment begins with a mark. -/
private theorem start_of_isFragment (h : IsFragment ended w t) (hr : BlankAhead r) (pos : Nat) :
    ∀ u ∈ (marksFrom pos (w ++ r)).head?, u.2.start = pos := by
  cases h with
  | mark hw _ =>
    rw [marksFrom_stands hr hw]
    rintro _ ⟨⟩
    rfl
  | joined hw _ _ _ =>
    subst hw
    rw [List.cons_append, marksFrom_mark (head_minus _)]
    rintro _ ⟨⟩
    rfl

/-- A fragment is read as its token; what stands behind it has to keep a distance. -/
theorem settle_fragment (h : IsFragment ended w t) (hr : BlankAhead r)
    (hfar : ∀ u ∈ (marksFrom (pos + Utf8.size w) r).head?, u.2.start ≠ pos + Utf8.size w) :
    settle (joinBy Mark.negated? ended (marksFrom pos (w ++ r))) =
      (settle (joinBy Mark.negated? t.endsOperand (marksFrom (pos + Utf8.size w) r))).map
        ((t, ⟨pos, pos + Utf8.size w⟩) :: ·) := by
  cases h with
  | mark hw ht =>
    rw [marksFrom_stands hr hw, joinBy_cons fun u hu _ _ hs => absurd hs.symm (hfar u hu), settle_token ht,
      Mark.endsOperand_of_token? ht]
  | @joined v x hw hv hx hended =>
    subst hw hended
    have hsize : pos + Utf8.size ('-' :: v) = pos + 1 + Utf8.size v := by
      rw [Utf8.size_cons, ← Nat.add_assoc]
      rfl
    have hmarks : marksFrom pos ('-' :: v ++ r) = (.token (.symbol .minus), ⟨pos, pos + 1⟩) ::
        (x, ⟨pos + 1, pos + Utf8.size ('-' :: v)⟩) :: marksFrom (pos + Utf8.size ('-' :: v)) r := by
      rw [List.cons_append, marksFrom_mark (head_minus _), hsize]
      exact congrArg _ (marksFrom_stands hr hv)
    obtain ⟨-, l, hl⟩ := exists_literal_of_negated? hx
    cases hl
    rw [hmarks, joinBy_join rfl rfl hx, settle_token rfl]
    rfl

/-- A fragment does not begin with a blank. -/
private theorem isBlank_of_isFragment (h : IsFragment ended w t) (r : List Char) :
    ∀ c ∈ (w ++ r).head?, Lexeme.isBlank c = false := by
  cases h with
  | mark hw _ =>
    obtain ⟨c, w, rfl⟩ := List.exists_cons_of_ne_nil (ne_nil_of_stands hw)
    rintro _ ⟨⟩
    exact isBlank_of_stands hw
  | joined hw _ _ _ =>
    subst hw
    rintro _ ⟨⟩
    rfl

/-- Fragments with their tokens, where each token may stand behind the one in front of it. -/
def Sequence (ended : Bool) : List (List Char × Token) → Prop
  | [] => True
  | (w, t) :: rest => IsFragment ended w t ∧ Sequence t.endsOperand rest

/-- Texts, each with a blank in front. -/
def spaced (ps : List (List Char × Token)) : List Char := ps.flatMap fun p => ' ' :: p.1

private theorem blankAhead_spaced (ps : List (List Char × Token)) : BlankAhead (spaced ps) := by
  cases ps with
  | nil => nofun
  | cons p ps =>
    rintro _ ⟨⟩
    rfl

/-- Fragments with blanks between them are read as their tokens. -/
private theorem settle_spaced {ps : List (List Char × Token)} (h : Sequence ended ps) (pos : Nat) :
    (∃ tokens, settle (joinBy Mark.negated? ended (marksFrom pos (spaced ps))) = .ok tokens ∧
      tokens.map Prod.fst = ps.map Prod.snd) ∧ ∀ u ∈ (marksFrom pos (spaced ps)).head?, u.2.start ≠ pos := by
  -- a sign in front could still be joined to a first mark that touches it, so where that starts is carried along
  induction ps generalizing ended pos with
  | nil =>
    rw [spaced, List.flatMap_nil, marksFrom_nil]
    exact ⟨⟨[], rfl, rfl⟩, nofun⟩
  | cons p ps ih =>
    obtain ⟨w, t⟩ := p
    obtain ⟨hw, hps⟩ := h
    have hspace : marksFrom pos (spaced ((w, t) :: ps)) = marksFrom (pos + 1) (w ++ spaced ps) :=
      marksFrom_space (isBlank_of_isFragment hw (spaced ps))
    obtain ⟨⟨tokens, htokens, hkinds⟩, hfar⟩ := ih hps (pos + 1 + Utf8.size w)
    have hstart := start_of_isFragment hw (blankAhead_spaced ps) (pos + 1)
    rw [hspace, settle_fragment hw (blankAhead_spaced ps) hfar, htokens]
    refine ⟨⟨_, rfl, ?_⟩, ?_⟩
    · rw [List.map_cons, hkinds, List.map_cons]
    · intro u hu
      have := hstart u hu
      omega

/-- A fragment and others behind it, with blanks between them, are read as their tokens. -/
private theorem settle_sequence {ps : List (List Char × Token)} (h : Sequence ended ((w, t) :: ps)) :
    ∃ s tokens, settle (joinBy Mark.negated? ended (marksFrom 0 (w ++ spaced ps))) = .ok ((t, s) :: tokens) ∧
      tokens.map Prod.fst = ps.map Prod.snd := by
  obtain ⟨hw, hps⟩ := h
  obtain ⟨⟨tokens, htokens, hkinds⟩, hfar⟩ := settle_spaced hps (0 + Utf8.size w)
  rw [settle_fragment hw (blankAhead_spaced ps) hfar, htokens]
  exact ⟨_, tokens, rfl, hkinds⟩

/-! ### Texts -/

/-- The text at a span of a source. -/
def Span.text (source : String) (s : Span) : String := String.Pos.Raw.extract source ⟨s.start⟩ ⟨s.stop⟩

theorem utf8Len_eq_size (cs : List Char) : String.utf8Len cs = Utf8.size cs := by
  induction cs with
  | nil => rfl
  | cons c cs ih => rw [String.utf8Len_cons, Utf8.size_cons, ih, Nat.add_comm]

theorem text_of_isSlice {source : String} (h : IsSlice source.toList s w) : s.text source = String.ofList w := by
  obtain ⟨l, r, hcs, rfl⟩ := h
  have hsource : source = String.ofList (l ++ w ++ r) := by
    rw [List.append_assoc, ← hcs, String.ofList_toList]
  rw [Span.text, hsource, ← utf8Len_eq_size, ← utf8Len_eq_size]
  exact String.extract_of_valid l w r

theorem lex_eq_ok_iff (cs : List Char) :
    lex (String.ofList cs) = .ok tokens ↔ settle (joinBy Mark.negated? false (marksFrom 0 cs)) = .ok tokens := by
  have hmarks := mapError_joinSigns cs
  rw [lex, String.toList_ofList, ← hmarks]
  cases (Lexer.scanFrom 0 [] cs).map (Lexer.joinSigns none) with
  | error e => simp [Except.mapError]
  | ok tokens => simp [Except.mapError]

/-- The fragments of the tokens of a text. -/
private theorem exists_sequence {source : String} (h : Fragments source.toList ended tokens) :
    ∃ ps, Sequence ended ps ∧ ps.map Prod.snd = tokens.map Prod.fst ∧
      tokens.map (fun t => t.2.text source) = ps.map fun p => String.ofList p.1 := by
  induction tokens generalizing ended with
  | nil => exact ⟨[], trivial, rfl, rfl⟩
  | cons t tokens ih =>
    obtain ⟨t, s⟩ := t
    obtain ⟨⟨w, hslice, hw⟩, hrest⟩ := h
    obtain ⟨ps, hps, hkinds, htexts⟩ := ih hrest
    refine ⟨(w, t) :: ps, ⟨hw, hps⟩, ?_, ?_⟩
    · rw [List.map_cons, hkinds, List.map_cons]
    · rw [List.map_cons, htexts, text_of_isSlice hslice, List.map_cons]

private theorem toList_intercalate_fragments (p : List Char × Token) (ps : List (List Char × Token)) :
    (" ".intercalate ((p :: ps).map fun p => String.ofList p.1)).toList = p.1 ++ spaced ps := by
  induction ps generalizing p with
  | nil =>
    rw [List.map_singleton, String.intercalate_singleton, String.toList_ofList]
    exact (List.append_nil _).symm
  | cons q ps ih =>
    have ih := ih q
    rw [List.map_cons] at ih
    rw [List.map_cons, List.map_cons, String.intercalate_cons_cons, String.toList_append, String.toList_append, ih]
    simp [spaced]

private theorem lex_sequence {p : List Char × Token} {ps : List (List Char × Token)} (h : Sequence false (p :: ps)) :
    ∃ s tokens, lex (" ".intercalate ((p :: ps).map fun p => String.ofList p.1)) = .ok ((p.2, s) :: tokens) ∧
      tokens.map Prod.fst = ps.map Prod.snd := by
  obtain ⟨s, tokens, hsettle, hkinds⟩ := settle_sequence h
  have hlex := (lex_eq_ok_iff _).mpr hsettle
  rw [← toList_intercalate_fragments p ps, String.ofList_toList] at hlex
  exact ⟨s, tokens, hlex, hkinds⟩

/-- A text that is read as one token up to its end is a fragment. -/
theorem isFragment_of_lex {source : String} (h : lex source = .ok [(t, ⟨0, Utf8.size source.toList⟩)]) :
    IsFragment false source.toList t := by
  have hfragments : Fragments source.toList false [(t, ⟨0, Utf8.size source.toList⟩)] := by
    refine fragments_of_joinBy ((lex_eq_ok_iff _).mp ?_)
    rwa [String.ofList_toList]
  obtain ⟨⟨w, ⟨l, r, hcs, hspan⟩, hw⟩, -⟩ := hfragments
  obtain ⟨hl, hstop⟩ := Span.mk.inj hspan
  -- nothing stands in front of the token or behind it
  rw [hcs, Utf8.size_append, Utf8.size_append] at hstop
  obtain rfl := eq_nil_of_size_eq_zero hl.symm
  obtain rfl := eq_nil_of_size_eq_zero (w := r) (by omega)
  rw [List.nil_append, List.append_nil] at hcs
  rwa [hcs]

/-- The text of a token is read as this token where it stands alone. -/
private theorem lex_single {source : String} {u : SpannedToken} (h : Fragments source.toList ended tokens)
    (hu : u ∈ tokens) : ∃ s, lex (u.2.text source) = .ok [(u.1, s)] := by
  induction tokens generalizing ended with
  | nil => cases hu
  | cons t tokens ih =>
    obtain ⟨t, r⟩ := t
    obtain ⟨⟨w, hslice, hw⟩, hrest⟩ := h
    rcases List.mem_cons.mp hu with rfl | hu
    · -- alone in its text the token has no operand in front of it
      have hfirst : IsFragment false w t := by
        cases hw with
        | mark hw ht => exact .mark hw ht
        | joined hw hv hx _ => exact .joined hw hv hx rfl
      have hsequence : Sequence false [(w, t)] := ⟨hfirst, trivial⟩
      obtain ⟨s, tokens, hlex, hkinds⟩ := lex_sequence hsequence
      obtain rfl : tokens = [] := List.map_eq_nil_iff.mp hkinds
      rw [List.map_singleton, String.intercalate_singleton] at hlex
      exact ⟨s, (text_of_isSlice hslice).symm ▸ hlex⟩
    · exact ih hrest hu

/-- The text at the span of a token is read as this token alone, and the texts of all tokens, joined by blanks, are read
as the same tokens. -/
theorem lex_fragments (source : String) (tokens : List SpannedToken) (h : lex source = .ok tokens) :
    (∀ t ∈ tokens, ∃ s, lex (t.2.text source) = .ok [(t.1, s)]) ∧
    ∃ again, lex (" ".intercalate (tokens.map fun t => t.2.text source)) = .ok again ∧
      again.map Prod.fst = tokens.map Prod.fst := by
  have hfragments : Fragments source.toList false tokens := by
    refine fragments_of_joinBy ((lex_eq_ok_iff _).mp ?_)
    rwa [String.ofList_toList]
  constructor
  · intro t ht
    exact lex_single hfragments ht
  · obtain ⟨ps, hps, hkinds, htexts⟩ := exists_sequence hfragments
    rw [htexts, ← hkinds]
    cases ps with
    | nil =>
      have hempty : lex (String.ofList []) = .ok [] := (lex_eq_ok_iff []).mpr (by rw [marksFrom_nil]; rfl)
      exact ⟨[], hempty, rfl⟩
    | cons p ps =>
      obtain ⟨s, tokens, hlex, hrest⟩ := lex_sequence hps
      exact ⟨(p.2, s) :: tokens, hlex, by rw [List.map_cons, hrest, List.map_cons]⟩

/-- A sign of its own and one that is joined to its digits, a slash in front of a comment, and a letter that makes the
quote behind it raw. -/
theorem lex_fragments_signs :
    let source := "a - -5//1\n/0x1F-r'\\'in\"\\n\".x<-9223372036854775808"
    let fragments := ["a", "-", "-5", "/", "0x1F", "-", "r'\\'", "in", "\"\\n\"", ".", "x", "<",
      "-9223372036854775808"]
    ∃ tokens, lex source = .ok tokens ∧ tokens.map (fun t => t.2.text source) = fragments ∧
      (∀ t ∈ tokens, ∃ s, lex (t.2.text source) = .ok [(t.1, s)]) ∧
      ∃ again, lex (" ".intercalate fragments) = .ok again ∧ again.map Prod.fst = tokens.map Prod.fst := by
  intro source fragments
  have hrun : (lex source).toOption.map (List.map fun t => t.2.text source) = some fragments := by decide +kernel
  cases h : lex source with
  | error e =>
    rw [h] at hrun
    cases hrun
  | ok tokens =>
    rw [h] at hrun
    have hfragments : tokens.map (fun t => t.2.text source) = fragments := Option.some.inj hrun
    rw [← hfragments]
    exact ⟨tokens, rfl, rfl, lex_fragments source tokens h⟩

end ExprLang
