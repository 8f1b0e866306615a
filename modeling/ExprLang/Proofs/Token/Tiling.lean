import ExprLang.Proofs.Token.Fragment

/-!
# Where tokens stand

The spans of the tokens of a text follow one another, with nothing but blanks and comments between them (`Tiles`). The
marks of a text stand in this way (`tiles_of_marked`), and joining a sign leaves nothing out, since the sign touches its
number (`tiles_joinBy`).

Where a text is no token, the marks in front of it are those of the text cut off there (`Marked.cut`), and they are
joined to tokens (`exists_before_of_settle`).
-/

namespace ExprLang

open Lexeme (recognise)

variable {l u r w g cs : List Char} {n pos : Nat} {m : Mark} {mark : Option Mark} {s : Span} {ended : Bool}
  {marks before : List SpannedMark} {tokens : List SpannedToken} {spans : List Span}

/-! ### What is passed over -/

/-- A stretch of blanks and comments in front of the text `r`. A comment goes on to the end of its line. -/
inductive Passed : List Char → List Char → Prop
  | nil {r : List Char} : Passed [] r
  | blank {c : Char} {g r : List Char} (hc : c ∈ Lexeme.blankChars) (h : Passed g r) : Passed (c :: g) r
  | comment {w g r : List Char} (hw : '\n' ∉ w) (hend : ∀ c ∈ (g ++ r).head?, c = '\n') (h : Passed g r) :
      Passed ('/' :: '/' :: (w ++ g)) r

theorem Passed.append {g' : List Char} (h : Passed g (g' ++ r)) (h' : Passed g' r) : Passed (g ++ g') r := by
  generalize hr : g' ++ r = r' at h
  induction h with
  | nil => exact h'
  | blank hc _ ih => exact .blank hc (ih hr)
  | comment hw hend _ ih =>
    subst hr
    rw [← List.append_assoc] at hend
    have := Passed.comment hw hend (ih rfl)
    rwa [← List.append_assoc] at this

private theorem passed_blanks (h : ∀ c ∈ g, Lexeme.isBlank c = true) (r : List Char) : Passed g r := by
  induction g with
  | nil => exact .nil
  | cons c g ih =>
    exact .blank (Lexeme.mem_blankChars (h c (by simp))) (ih fun d hd => h d (List.mem_cons_of_mem _ hd))

theorem recognise_of_blank (h : Scan.head cs = .blank n) : recognise cs = some (.blank, n) := by
  have hnot {o : Option Token} {k : Nat} : Scan.ofToken? o k ≠ .blank n := by
    cases o <;> rintro ⟨⟩
  unfold Scan.head at h
  split at h
  · cases h
  · rename_i hrec
    cases h
    exact hrec
  · exact absurd h hnot
  · exact absurd h hnot
  · exact absurd h hnot
  · split at h <;> cases h
  · cases h
  · cases h

/-- What the scanner passes over is a run of blanks or a comment. -/
theorem passed_of_head (h : Mark.head (w ++ r) = (none, w.length)) : Passed w r := by
  rcases Lexeme.match_or_match_of_recognise rfl (recognise_of_blank (Mark.scan_head h)) with hrule | hrule
  · unfold Lexeme.blanks at hrule
    dsimp only at hrule
    split at hrule
    · cases hrule
    · have hlen := (Prod.mk.inj (Option.some.inj hrule)).2
      have hw : (w ++ r).takeWhile Lexeme.isBlank = w := by
        rw [List.prefix_iff_eq_take.mp (List.takeWhile_prefix _), hlen, List.take_left]
      refine passed_blanks (fun c hc => ?_) r
      rw [← hw] at hc
      exact List.mem_takeWhile_imp hc
  · unfold Lexeme.comment at hrule
    split at hrule
    · rename_i ds hds
      have hlen := (Prod.mk.inj (Option.some.inj hrule)).2
      have hline : ds.takeWhile (· ≠ '\n') ++ ds.dropWhile (· ≠ '\n') = ds := List.takeWhile_append_dropWhile
      have hcut : w ++ r = ('/' :: '/' :: ds.takeWhile (· ≠ '\n')) ++ ds.dropWhile (· ≠ '\n') := by
        rw [hds, List.cons_append, List.cons_append, hline]
      obtain ⟨rfl, rfl⟩ := List.append_inj hcut (by rw [← hlen, List.length_cons, List.length_cons]; omega)
      have hend : ∀ c ∈ (ds.dropWhile (· ≠ '\n')).head?, c = '\n' := by
        intro c hc
        have := List.head?_dropWhile_not (· ≠ '\n') ds
        rw [Option.mem_def.mp hc] at this
        simpa using this
      have hline : '\n' ∉ ds.takeWhile (· ≠ '\n') := fun hmem => by simpa using List.mem_takeWhile_imp hmem
      have hcomment := Passed.comment hline hend .nil
      rwa [List.append_nil] at hcomment
    · cases hrule

/-! ### Tiles -/

/-- The spans stand in the text, which begins at byte `pos`, one behind the other. None is empty, and what is not in
them is passed over. -/
def Tiles (pos : Nat) (cs : List Char) : List Span → Prop
  | [] => Passed cs []
  | s :: rest => ∃ g w r, cs = g ++ (w ++ r) ∧ w ≠ [] ∧ Passed g (w ++ r) ∧
      s = ⟨pos + Utf8.size g, pos + Utf8.size g + Utf8.size w⟩ ∧ Tiles s.stop r rest

/-- What is passed over in front of the first span may be longer. -/
private theorem Tiles.behind (hw : Passed w r) (h : Tiles (pos + Utf8.size w) r spans) : Tiles pos (w ++ r) spans := by
  cases spans with
  | nil =>
    rw [← List.append_nil r] at hw
    exact hw.append h
  | cons s rest =>
    obtain ⟨g, v, r, rfl, hv, hg, hs, hrest⟩ := h
    refine ⟨w ++ g, v, r, by rw [List.append_assoc], hv, hw.append hg, ?_, hrest⟩
    rw [hs, Utf8.size_append, ← Nat.add_assoc]

/-- The marks of a text stand in it like this. -/
theorem tiles_of_marked (h : Marked pos cs marks) : Tiles pos cs (marks.map Prod.snd) := by
  induction h with
  | nil => exact Passed.nil
  | blank hw hhead _ ih => exact ih.behind (passed_of_head hhead)
  | mark hw hhead _ ih => exact ⟨[], _, _, rfl, hw, .nil, rfl, ih⟩

/-- A sign is joined to the mark that it touches, so that nothing is between them. -/
theorem tiles_joinBy {join? : Mark → Option Mark} (h : Tiles pos cs (marks.map Prod.snd)) :
    Tiles pos cs ((joinBy join? ended marks).map Prod.snd) := by
  fun_induction joinBy join? ended marks generalizing pos cs with
  | case1 => exact h
  | case2 => exact h
  | case3 ended m s x q rest y hjoin ih =>
    split at hjoin
    · rename_i hcond
      obtain ⟨g, w, _, rfl, hw, hg, rfl, g', v, r, rfl, hv, -, rfl, hrest⟩ := h
      obtain rfl : g' = [] := eq_nil_of_size_eq_zero (Nat.left_eq_add.mp hcond.2.2)
      rw [List.nil_append] at hg
      refine ⟨g, w ++ v, r, by simp, by simp [hw], by rwa [List.append_assoc], ?_, ih hrest⟩
      rw [Span.through, Utf8.size_append, Utf8.size_nil, Nat.add_zero, Nat.add_assoc _ _ (Utf8.size v)]
    · cases hjoin
  | case4 ended m s x q rest hjoin ih =>
    obtain ⟨g, w, r, hcs, hw, hg, hs, hrest⟩ := h
    exact ⟨g, w, r, hcs, hw, hg, hs, ih hrest⟩

theorem map_snd_of_settle (h : settle marks = .ok tokens) : tokens.map Prod.snd = marks.map Prod.snd := by
  induction marks generalizing tokens with
  | nil =>
    cases h
    rfl
  | cons u marks ih =>
    obtain ⟨t, more, -, hmore, rfl⟩ := settle_eq_ok h
    rw [List.map_cons, List.map_cons, ih hmore]

/-- The tokens of a text stand in it one behind the other, with blanks and comments around them. -/
theorem tiles_of_lex {source : String} (h : lex source = .ok tokens) : Tiles 0 source.toList (tokens.map Prod.snd) := by
  rw [← @String.ofList_toList source, lex_eq_ok_iff] at h
  rw [map_snd_of_settle h]
  exact tiles_joinBy (tiles_of_marked (marked_marksFrom _ _))

/-! ### Texts in front of an error -/

theorem Scan.head_comment (cs : List Char) :
    Scan.head ('/' :: '/' :: cs) = .blank (2 + (cs.takeWhile (· ≠ '\n')).length) := by
  have hrec : recognise ('/' :: '/' :: cs) = some (.blank, 2 + (cs.takeWhile (· ≠ '\n')).length) := by
    have hcomment : Lexeme.comment ('/' :: '/' :: cs) = some (.blank, 2 + (cs.takeWhile (· ≠ '\n')).length) := rfl
    have hsymbols : Lexeme.symbols ('/' :: '/' :: cs) = some (.sign .slash, 1) := rfl
    rw [Lexeme.recognise_eq, hcomment, hsymbols]
    exact if_neg (by omega)
  rw [Scan.head, hrec]

/-- A run within a text is as long where the text ends. -/
private theorem length_takeWhile_cut {p : Char → Bool} (h : ((u ++ r).takeWhile p).length ≤ u.length) :
    (u.takeWhile p).length = ((u ++ r).takeWhile p).length := by
  have hlen : ((u ++ []).takeWhile p).length = min u.length ((u ++ r).takeWhile p).length :=
    Lexeme.length_takeWhile_append (by rintro _ ⟨⟩)
  rwa [List.append_nil, Nat.min_eq_right h] at hlen

/-- What is passed over within a text does not depend on what stands behind the text. -/
private theorem scan_head_cut (hn : n ≤ u.length) (h : Scan.head (u ++ r) = .blank n) : Scan.head u = .blank n := by
  rcases Lexeme.match_or_match_of_recognise rfl (recognise_of_blank h) with hrule | hrule
  · unfold Lexeme.blanks at hrule
    dsimp only at hrule
    split at hrule
    · cases hrule
    · rename_i hzero
      obtain rfl := (Prod.mk.inj (Option.some.inj hrule)).2
      rw [← length_takeWhile_cut hn] at hzero ⊢
      cases u with
      | nil => exact absurd rfl hzero
      | cons c u =>
        by_cases hc : Lexeme.isBlank c = true
        · rw [Lexer.head_blank hc, List.takeWhile_cons_of_pos hc, List.length_cons]
        · rw [List.takeWhile_cons_of_neg hc] at hzero
          exact absurd rfl hzero
  · unfold Lexeme.comment at hrule
    split at hrule
    · rename_i ds hds
      obtain rfl := (Prod.mk.inj (Option.some.inj hrule)).2
      -- both slashes are within the text
      obtain ⟨v, rfl, rfl⟩ : ∃ v, u = '/' :: '/' :: v ∧ ds = v ++ r := by
        have hcut : u ++ r = ['/', '/'] ++ ds := hds
        rcases List.append_eq_append_iff.mp hcut with ⟨d, hd, hr⟩ | ⟨d, hd, hr⟩
        · have hlen := congrArg List.length hd
          rw [List.length_append, List.length_cons, List.length_cons, List.length_nil] at hlen
          obtain rfl : d = [] := List.eq_nil_of_length_eq_zero (by omega)
          exact ⟨[], by simpa using hd.symm, hr.symm⟩
        · exact ⟨d, hd, hr⟩
      rw [List.length_cons, List.length_cons] at hn
      rw [Scan.head_comment, length_takeWhile_cut (r := r) (by omega)]
    · cases hrule

theorem Mark.head_cut (hn : n ≤ u.length) (hm : mark ≠ some .fault) (h : Mark.head (u ++ r) = (mark, n)) :
    Mark.head u = (mark, n) := by
  cases mark with
  | none => exact Mark.head_of_blank (scan_head_cut hn (Mark.scan_head h))
  | some m =>
    have hm : m ≠ .fault := by
      rintro rfl
      exact hm rfl
    have hhead : Mark.head (u ++ []) = (some m, n) := Mark.head_append (by rintro _ ⟨⟩) hn hm h
    rwa [List.append_nil] at hhead

/-- The marks in front of a mark are those of the text in front of it. -/
theorem Marked.cut {after : List SpannedMark} (h : Marked pos cs (before ++ (m, s) :: after))
    (hbefore : ∀ u ∈ before, u.1 ≠ .fault) :
    ∃ l r, cs = l ++ r ∧ s.start = pos + Utf8.size l ∧ Marked pos l before := by
  generalize hmarks : before ++ (m, s) :: after = marks at h
  induction h generalizing before with
  | nil => simp at hmarks
  | blank hw hhead _ ih =>
    obtain ⟨l, r, rfl, hs, hl⟩ := ih hbefore hmarks
    -- what is found within the text in front is found where that text ends
    rw [← List.append_assoc] at hhead
    have hcut := Mark.head_cut (by simp) (by rintro ⟨⟩) hhead
    refine ⟨_, r, (List.append_assoc ..).symm, ?_, .blank hw hcut hl⟩
    rw [hs, Utf8.size_append, Nat.add_assoc]
  | @mark pos w r m' marks hw hhead _ ih =>
    cases before with
    | nil =>
      cases hmarks
      exact ⟨[], _, rfl, rfl, .nil⟩
    | cons b before =>
      obtain ⟨rfl, hrest⟩ := List.cons.inj hmarks
      obtain ⟨l, r, rfl, hs, hl⟩ := ih (fun u hu => hbefore u (List.mem_cons_of_mem _ hu)) hrest
      rw [← List.append_assoc] at hhead
      have hfault : m' ≠ .fault := hbefore _ List.mem_cons_self
      have hcut := Mark.head_cut (by simp) (by simpa using hfault) hhead
      refine ⟨_, r, (List.append_assoc ..).symm, ?_, .mark hw hcut hl⟩
      rw [hs, Utf8.size_append, Nat.add_assoc]

private theorem minus_ne_fault (hm : m.isMinus = true) : m ≠ .fault := by
  rintro rfl
  cases hm

/-- The error is a mark, and the marks in front of it are joined to tokens. -/
theorem exists_before_of_settle (h : settle (joinBy Mark.negated? ended marks) = .error s) :
    ∃ before m after tokens, marks = before ++ (m, s) :: after ∧ (∀ u ∈ before, u.1 ≠ .fault) ∧
      settle (joinBy Mark.negated? ended before) = .ok tokens := by
  fun_induction joinBy Mark.negated? ended marks with
  | case1 => cases h
  | case2 ended u =>
    obtain ⟨m, s'⟩ := u
    rcases settle_eq_error h with ⟨-, rfl⟩ | ⟨t, -, hnil⟩
    · exact ⟨[], m, [], [], rfl, by simp, rfl⟩
    · cases hnil
  | case3 ended m s' x q rest y hjoin ih =>
    split at hjoin
    · rename_i hcond
      obtain ⟨hm, rfl, hs⟩ := hcond
      obtain ⟨hfault, l, rfl⟩ := exists_literal_of_negated? hjoin
      rcases settle_eq_error h with ⟨hnone, -⟩ | ⟨t, ht, hrest⟩
      · cases hnone
      · obtain ⟨before, m', after, tokens, rfl, hbefore, hsettle⟩ := ih hrest
        refine ⟨(m, s') :: (x, q) :: before, m', after, (t, s'.through q) :: tokens, rfl, ?_, ?_⟩
        · simp only [List.forall_mem_cons]
          exact ⟨minus_ne_fault hm, hfault, hbefore⟩
        · rw [joinBy_join hm hs hjoin, settle_token ht, hsettle]
          rfl
    · cases hjoin
  | case4 ended m s' x q rest hjoin ih =>
    rcases settle_eq_error h with ⟨-, rfl⟩ | ⟨t, ht, hrest⟩
    · exact ⟨[], m, _, [], rfl, by simp, rfl⟩
    · obtain ⟨before, m', after, tokens, hmarks, hbefore, hsettle⟩ := ih hrest
      have hm : m ≠ .fault := by
        rintro rfl
        cases ht
      refine ⟨(m, s') :: before, m', after, (t, s') :: tokens, congrArg _ hmarks, ?_, ?_⟩
      · simp only [List.forall_mem_cons]
        exact ⟨hm, hbefore⟩
      · rw [joinBy_cons, settle_token ht, hsettle]
        · rfl
        · -- the next mark is the one that the sign is not joined to
          intro u hu hminus hended hs
          cases before with
          | nil => cases hu
          | cons b before =>
            obtain ⟨rfl, -⟩ := List.cons.inj hmarks
            cases hu
            rwa [if_pos ⟨hminus, hended, hs⟩] at hjoin

/-! ### Whole texts -/

/-- The span is a stretch of whole characters of the text, and not empty. -/
structure Span.IsStretch (source : String) (s : Span) : Prop where
  start_lt : s.start < s.stop
  start_valid : String.Pos.Raw.IsValid source ⟨s.start⟩
  stop_valid : String.Pos.Raw.IsValid source ⟨s.stop⟩

/-- The text at the span is passed over. -/
def Span.IsPassed (source : String) (s : Span) : Prop :=
  ∃ l g r, source.toList = l ++ (g ++ r) ∧ s = ⟨Utf8.size l, Utf8.size l + Utf8.size g⟩ ∧ Passed g r

/-- What is between the spans, from byte `pos` on and up to byte `stop`. -/
def gaps (pos stop : Nat) : List Span → List Span
  | [] => [⟨pos, stop⟩]
  | s :: rest => ⟨pos, s.start⟩ :: gaps s.stop stop rest

private theorem isValid_size {source : String} (h : source.toList = l ++ r) :
    String.Pos.Raw.IsValid source ⟨Utf8.size l⟩ := by
  rw [String.Pos.Raw.isValid_iff_exists_append]
  refine ⟨String.ofList l, String.ofList r, ?_, ?_⟩
  · rw [← String.ofList_append, ← h, String.ofList_toList]
  · rw [String.rawEndPos_ofList, utf8Len_eq_size]

private theorem isStretch_of_isSlice {source : String} (hw : w ≠ []) (h : IsSlice source.toList s w) :
    s.IsStretch source := by
  obtain ⟨l, r, hcs, rfl⟩ := h
  refine ⟨?_, isValid_size hcs, ?_⟩
  · have hpos : Utf8.size w ≠ 0 := fun h => hw (eq_nil_of_size_eq_zero h)
    show Utf8.size l < Utf8.size l + Utf8.size w
    omega
  · rw [← Utf8.size_append]
    exact isValid_size (by rw [hcs, List.append_assoc])

private theorem utf8ByteSize_eq_size (source : String) : source.utf8ByteSize = Utf8.size source.toList := by
  rw [← utf8Len_eq_size, ← String.utf8ByteSize_ofList, String.ofList_toList]

/-- The spans of a tiling are stretches of the text, each behind the one before, with nothing but blanks and comments
around them. -/
theorem Tiles.stretches {source : String} (hl : source.toList = l ++ cs) (h : Tiles (Utf8.size l) cs spans) :
    (∀ s ∈ spans, s.IsStretch source ∧ Utf8.size l ≤ s.start) ∧ spans.Pairwise (fun s r => s.stop ≤ r.start) ∧
      ∀ g ∈ gaps (Utf8.size l) source.utf8ByteSize spans, g.IsPassed source := by
  -- the text in front grows by a gap and a span
  induction spans generalizing l cs with
  | nil =>
    refine ⟨by simp, .nil, ?_⟩
    intro g hg
    obtain rfl := List.mem_singleton.mp hg
    refine ⟨l, cs, [], by rw [List.append_nil, hl], ?_, h⟩
    rw [utf8ByteSize_eq_size, hl, Utf8.size_append]
  | cons s rest ih =>
    obtain ⟨g, w, r, rfl, hw, hg, hs, hrest⟩ := h
    have hstop : s.stop = Utf8.size (l ++ g ++ w) := by rw [hs, Utf8.size_append, Utf8.size_append]
    rw [hstop] at hrest
    obtain ⟨hstretch, hbehind, hgaps⟩ := ih (by rw [hl, List.append_assoc, List.append_assoc]) hrest
    have hslice : IsSlice source.toList s w := ⟨l ++ g, r, by rw [hl, List.append_assoc], by rw [hs, Utf8.size_append]⟩
    rw [← hstop] at hstretch hgaps
    have hfirst := isStretch_of_isSlice hw hslice
    have hstart : Utf8.size l ≤ s.start := by
      rw [hs]
      exact Nat.le_add_right _ _
    refine ⟨?_, List.pairwise_cons.mpr ⟨fun u hu => (hstretch u hu).2, hbehind⟩, ?_⟩
    · refine List.forall_mem_cons.mpr ⟨⟨hfirst, hstart⟩, fun u hu => ⟨(hstretch u hu).1, ?_⟩⟩
      exact hstart.trans (hfirst.start_lt.le.trans (hstretch u hu).2)
    · refine List.forall_mem_cons.mpr ⟨⟨l, g, w ++ r, hl, ?_, hg⟩, hgaps⟩
      rw [hs]

/-- The spans of the tokens of a text are stretches of it, each behind the one before, with nothing but blanks and
comments around them. An error is at a stretch too, and the text in front of it is read. -/
theorem lex_tiles (source : String) :
    (∀ tokens, lex source = .ok tokens → (∀ t ∈ tokens, t.2.IsStretch source) ∧
      tokens.Pairwise (fun t u => t.2.stop ≤ u.2.start) ∧
      ∀ g ∈ gaps 0 source.utf8ByteSize (tokens.map Prod.snd), g.IsPassed source) ∧
    ∀ e, lex source = .error e →
      e.span.IsStretch source ∧ ∃ tokens, lex (Span.text source ⟨0, e.span.start⟩) = .ok tokens := by
  have hmarked := marked_marksFrom 0 source.toList
  constructor
  · intro tokens h
    obtain ⟨hstretch, hbehind, hgaps⟩ := Tiles.stretches (l := []) rfl (tiles_of_lex h)
    exact ⟨fun t ht => (hstretch t.2 (List.mem_map_of_mem ht)).1, List.pairwise_map.mp hbehind, hgaps⟩
  · intro e h
    have hsettle : settle (joinBy Mark.negated? false (marksFrom 0 source.toList)) = .error e.span := by
      have huniform := mapError_lex source
      rw [h] at huniform
      exact huniform.symm
    obtain ⟨before, m, after, tokens, hmarks, hbefore, htokens⟩ := exists_before_of_settle hsettle
    rw [hmarks] at hmarked
    have hstretch := (Tiles.stretches (l := []) rfl (tiles_of_marked hmarked)).1 e.span (by simp)
    obtain ⟨l, r, hcut, hstart, hl⟩ := hmarked.cut hbefore
    have htext : Span.text source ⟨0, e.span.start⟩ = String.ofList l :=
      text_of_isSlice ⟨[], r, hcut, by rw [hstart, Utf8.size_nil]⟩
    refine ⟨hstretch.1, tokens, ?_⟩
    rw [htext, lex_eq_ok_iff, ← hl.eq_marksFrom]
    exact htokens

/-- A joined sign with a comment behind it, and a text that does not end. -/
theorem lex_tiles_comment :
    (∃ tokens, lex "a - -5 //é" = .ok tokens ∧ tokens.map Prod.snd = [⟨0, 1⟩, ⟨2, 3⟩, ⟨4, 6⟩] ∧
      (∀ t ∈ tokens, t.2.IsStretch "a - -5 //é") ∧ tokens.Pairwise (fun t u => t.2.stop ≤ u.2.start) ∧
      ∀ g ∈ ([⟨0, 0⟩, ⟨1, 2⟩, ⟨3, 4⟩, ⟨6, 11⟩] : List Span), g.IsPassed "a - -5 //é") ∧
    ∃ e, lex "a 'é" = .error e ∧ e.span = ⟨2, 3⟩ ∧ e.span.IsStretch "a 'é" ∧
      ∃ tokens, lex (Span.text "a 'é" ⟨0, e.span.start⟩) = .ok tokens := by
  constructor
  · have hrun : (lex "a - -5 //é").toOption.map (List.map Prod.snd) = some [⟨0, 1⟩, ⟨2, 3⟩, ⟨4, 6⟩] := by decide +kernel
    cases h : lex "a - -5 //é" with
    | error e =>
      rw [h] at hrun
      cases hrun
    | ok tokens =>
      rw [h] at hrun
      have hspans : tokens.map Prod.snd = [⟨0, 1⟩, ⟨2, 3⟩, ⟨4, 6⟩] := Option.some.inj hrun
      obtain ⟨hstretch, hbehind, hgaps⟩ := (lex_tiles "a - -5 //é").1 tokens h
      rw [hspans] at hgaps
      exact ⟨tokens, rfl, hspans, hstretch, hbehind, hgaps⟩
  · have hrun : (match lex "a 'é" with | .ok _ => none | .error e => some e.span) = some ⟨2, 3⟩ := by decide +kernel
    cases h : lex "a 'é" with
    | ok tokens =>
      rw [h] at hrun
      cases hrun
    | error e =>
      rw [h] at hrun
      exact ⟨e, rfl, Option.some.inj hrun, (lex_tiles "a 'é").2 e h⟩

end ExprLang
