import ExprLang.Proofs.Syntax.Nodes
import ExprLang.Proofs.Token.Tiling

/-!
# The spans of trees

In a tree that was read from a text each node stands at a stretch of it, and the nodes directly below it stand in that
stretch, apart from one another (`parse_encloses`). While the text is read this is shown of rows: the trees that a
reader returns are nested and stand one behind the other, from the place where its tokens begin up to the place where
the tokens behind them begin (`Placed`). Brackets of any kind leave room around a row, and every node is made of a row
and a span around it (`Row.nested`).
-/

namespace ExprLang

variable {source : String} {a b c : Nat}

/-! ### Spans -/

namespace Span

variable {s r : Span}

/-- All of the span lies in the other one. -/
def Within (s outer : Span) : Prop := outer.start ≤ s.start ∧ s.stop ≤ outer.stop

/-- One of the spans ends before the other one begins. -/
def Apart (s r : Span) : Prop := s.stop ≤ r.start ∨ r.stop ≤ s.start

theorem Apart.symm (h : s.Apart r) : r.Apart s := Or.symm h

theorem IsStretch.through (hs : s.IsStretch source) (hr : r.IsStretch source) (h : s.start ≤ r.start) :
    (s.through r).IsStretch source where
  start_lt := Nat.lt_of_le_of_lt h hr.start_lt
  start_valid := hs.start_valid
  stop_valid := hr.stop_valid

/-- A stretch ends in the text. -/
theorem IsStretch.stop_le (h : s.IsStretch source) : s.stop ≤ source.utf8ByteSize := h.stop_valid.le_rawEndPos

end Span

/-! ### Nodes below a node -/

namespace Expr

variable {α : Type}

/-- The nodes directly below the root. The entries of a map have two, their keys and their values. -/
def children : Expr α → List (Expr α)
  | literal _ _ | name _ _ => []
  | list _ items => items
  | map _ entries => entries.flatMap fun p => [p.1, p.2]
  | unary _ _ _ e => [e]
  | chain _ _ c => c.operands
  | relation _ _ l r => [l, r]
  | ternary _ c y n => [c, y, n]
  | index _ b i => [b, i]
  | call _ f args => f :: args

private theorem nodesItems_eq (es : List (Expr α)) : nodesItems es = es.flatMap nodes := by
  induction es with
  | nil => rfl
  | cons e es ih => rw [nodesItems, List.flatMap_cons, ih]

private theorem nodesEntries_eq (es : List (Expr α × Expr α)) :
    nodesEntries es = (es.flatMap fun p => [p.1, p.2]).flatMap nodes := by
  induction es with
  | nil => rfl
  | cons p es ih => simp [ih]

private theorem nodesFollowing_eq (es : List (BinaryOp × Expr α)) :
    nodesFollowing es = (es.map Prod.snd).flatMap nodes := by
  induction es with
  | nil => rfl
  | cons p es ih => simp [ih]

/-- The nodes of a tree are its root and the nodes of the trees directly below. -/
theorem nodes_eq (e : Expr α) : e.nodes = e :: e.children.flatMap nodes := by
  cases e with
  | literal | name => rfl
  | list a items => rw [nodes, nodesItems_eq, children]
  | map a entries => rw [nodes, nodesEntries_eq, children]
  | chain a level c => simp [children, Chain.operands, Chain.following, nodesFollowing_eq]
  | call a f args => rw [nodes, nodesItems_eq, children, List.flatMap_cons]
  | unary | relation | ternary | index => simp [children]

/-- The root stands at a stretch of the text, and the nodes directly below it stand in this stretch, apart from one
another. -/
structure Encloses (source : String) (e : SpannedExpr) : Prop where
  stretch : e.span.IsStretch source
  within : ∀ c ∈ e.children, c.span.Within e.span
  apart : e.children.Pairwise fun c d => c.span.Apart d.span

/-- Whether all nodes of a tree stand like this. -/
def Nested (source : String) (e : SpannedExpr) : Prop := ∀ n ∈ e.nodes, n.Encloses source

theorem nested_iff {e : SpannedExpr} :
    e.Nested source ↔ e.Encloses source ∧ ∀ c ∈ e.children, c.Nested source := by
  rw [Nested, nodes_eq, List.forall_mem_cons]
  refine and_congr_right fun _ => ?_
  simp only [Nested, List.mem_flatMap]
  constructor
  · exact fun h c hc n hn => h n ⟨c, hc, hn⟩
  · rintro h n ⟨c, hc, hn⟩
    exact h c hc n hn

theorem Nested.stretch {e : SpannedExpr} (h : e.Nested source) : e.span.IsStretch source :=
  (nested_iff.mp h).1.stretch

end Expr

/-! ### Rows -/

/-- The trees are nested and stand one behind the other, from byte `a` on and up to byte `b`. -/
def Row (source : String) (b : Nat) : (a : Nat) → List SpannedExpr → Prop
  | a, [] => a ≤ b
  | a, e :: es => a ≤ e.span.start ∧ e.Nested source ∧ Row source b e.span.stop es

namespace Row

variable {e : SpannedExpr} {es fs : List SpannedExpr} {s r : Span}

theorem le (h : Row source b a es) : a ≤ b := by
  induction es generalizing a with
  | nil => exact h
  | cons e es ih => exact h.1.trans (h.2.1.stretch.start_lt.le.trans (ih h.2.2))

theorem append (h : Row source b a es) (h' : Row source c b fs) : Row source c a (es ++ fs) := by
  induction es generalizing a with
  | nil =>
    cases fs with
    | nil => exact Nat.le_trans h h'
    | cons f fs => exact ⟨Nat.le_trans h h'.1, h'.2⟩
  | cons e es ih => exact ⟨h.1, h.2.1, ih h.2.2⟩

theorem mono (h : Row source b a es) (ha : c ≤ a) : Row source b c es := by
  have hempty : Row source a c [] := ha
  exact hempty.append h

theorem nested_of_mem (h : Row source b a es) : ∀ e ∈ es, e.Nested source := by
  induction es generalizing a with
  | nil => simp
  | cons e es ih => exact List.forall_mem_cons.mpr ⟨h.2.1, ih h.2.2⟩

theorem bounds (h : Row source b a es) : ∀ e ∈ es, a ≤ e.span.start ∧ e.span.stop ≤ b := by
  induction es generalizing a with
  | nil => simp
  | cons e es ih =>
    have hstop : a ≤ e.span.stop := h.1.trans h.2.1.stretch.start_lt.le
    exact List.forall_mem_cons.mpr ⟨⟨h.1, h.2.2.le⟩, fun c hc => (ih h.2.2 c hc).imp_left hstop.trans⟩

theorem apart (h : Row source b a es) : es.Pairwise fun c d => c.span.Apart d.span := by
  induction es generalizing a with
  | nil => exact .nil
  | cons e es ih => exact .cons (fun c hc => .inl (h.2.2.bounds c hc).1) (ih h.2.2)

theorem mono_right (h : Row source b a es) (hb : b ≤ c) : Row source c a es := by
  have hempty : Row source c b [] := hb
  have hrow := h.append hempty
  rwa [List.append_nil] at hrow

/-- A row ends where its last tree does. -/
theorem upto_last (h : Row source b a es) (he : es.getLast? = some e) :
    Row source e.span.stop a es ∧ e.span.stop ≤ b := by
  obtain ⟨init, rfl⟩ := List.getLast?_eq_some_iff.mp he
  induction init generalizing a with
  | nil => exact ⟨⟨h.1, h.2.1, Nat.le_refl _⟩, h.2.2⟩
  | cons f init ih =>
    obtain ⟨hrow, hstop⟩ := ih h.2.2 (by simp)
    exact ⟨⟨h.1, h.2.1, hrow⟩, hstop⟩

/-- A node is nested when the nodes directly below it make a row, in any order, and its span is around the row. -/
theorem nested (h : Row source b a es) (hperm : e.children.Perm es) (hspan : e.span.IsStretch source)
    (ha : e.span.start ≤ a) (hb : b ≤ e.span.stop) : e.Nested source := by
  refine Expr.nested_iff.mpr ⟨⟨hspan, fun c hc => ?_, ?_⟩, fun c hc => h.nested_of_mem c (hperm.mem_iff.mp hc)⟩
  · exact (h.bounds c (hperm.mem_iff.mp hc)).imp ha.trans hb.trans'
  · exact (hperm.pairwise_iff Span.Apart.symm).mpr h.apart

/-- A node makes a row when the nodes directly below it do, and it begins and ends with stretches around them. -/
theorem node (h : Row source b a es) (hperm : e.children.Perm es) (hspan : e.span = s.through r)
    (hs : s.IsStretch source) (hr : r.IsStretch source) (hsr : s.start ≤ r.start) (ha : s.start ≤ a) (hb : b ≤ r.stop)
    (hc : c ≤ s.start) : Row source r.stop c [e] := by
  have hnode : e.Nested source := by
    refine h.nested hperm ?_ ?_ ?_
    all_goals rw [hspan]
    · exact hs.through hr hsr
    · exact ha
    · exact hb
  refine ⟨?_, hnode, ?_⟩
  all_goals rw [hspan]
  · exact hc
  · exact Nat.le_refl r.stop

/-- A node without nodes below it. -/
theorem leaf (he : e.children = []) (hspan : e.span.IsStretch source) (ha : a ≤ e.span.start) :
    Row source e.span.stop a [e] := by
  have hempty : Row source e.span.start e.span.start [] := Nat.le_refl _
  exact ⟨ha, hempty.nested (.of_eq he) hspan (Nat.le_refl _) hspan.start_lt.le, Nat.le_refl _⟩

end Row

/-! ### Tokens in order -/

/-- The tokens stand at stretches of the text, from byte `a` on, one behind the other. -/
structure InOrder (source : String) (a : Nat) (tokens : List SpannedToken) : Prop where
  stretch : ∀ t ∈ tokens, t.2.IsStretch source ∧ a ≤ t.2.start
  behind : tokens.Pairwise fun t u => t.2.stop ≤ u.2.start

theorem inOrder_of_lex {tokens : List SpannedToken} (h : lex source = .ok tokens) : InOrder source 0 tokens := by
  obtain ⟨hstretch, hbehind, -⟩ := Tiles.stretches (l := []) rfl (tiles_of_lex h)
  exact ⟨fun t ht => hstretch _ (List.mem_map_of_mem ht), List.pairwise_map.mp hbehind⟩

namespace InOrder

variable {t : SpannedToken} {s r : List SpannedToken}

theorem head (h : InOrder source a (t :: s)) : t.2.IsStretch source ∧ a ≤ t.2.start := h.stretch t List.mem_cons_self

theorem le_stop (h : InOrder source a (t :: s)) : a ≤ t.2.stop := h.head.2.trans h.head.1.start_lt.le

theorem tail (h : InOrder source a (t :: s)) : InOrder source t.2.stop s where
  stretch u hu := ⟨(h.stretch u (List.mem_cons_of_mem _ hu)).1, List.rel_of_pairwise_cons h.behind hu⟩
  behind := h.behind.of_cons

theorem sublist (h : InOrder source a s) (hr : r.Sublist s) : InOrder source a r where
  stretch u hu := h.stretch u (hr.subset hu)
  behind := h.behind.sublist hr

end InOrder

namespace Parser

variable {β : Type}

/-- What the reader reads is a row: the trees that `row` lists, from the place on where the tokens begin, with the
tokens that are left behind it. -/
def Placed (source : String) (row : β → List SpannedExpr) (reader : Reader β) : Prop :=
  ∀ a s p, InOrder source a s → reader s = .ok p →
    ∃ b, Row source b a (row p.value) ∧ InOrder source b p.rest

/-- The row of one tree. -/
def alone (e : SpannedExpr) : List SpannedExpr := [e]

/-! ### Series -/

theorem expect_placed {y : Symbol} {s : List SpannedToken} {p : Parsed Span s.length} (hs : InOrder source a s)
    (h : (expect y : Reader Span) s = .ok p) :
    p.value.IsStretch source ∧ a ≤ p.value.start ∧ InOrder source p.value.stop p.rest := by
  unfold expect at h
  split at h
  · split at h
    · cases h
      exact ⟨hs.head.1, hs.head.2, hs.tail⟩
    · cases h
  · cases h

section Series

variable {item : Reader β} {row : β → List SpannedExpr} {close : Symbol} {trailing : Bool}

/-- The closing symbol is behind the row of the items. -/
private theorem moreItems_placed (hi : Placed source row item) (s) (p) (hs : InOrder source a s)
    (h : moreItems item close trailing s = .ok p) :
    Row source p.value.2.start a (p.value.1.flatMap row) ∧ p.value.2.IsStretch source ∧
      InOrder source p.value.2.stop p.rest := by
  fun_induction moreItems item close trailing s generalizing a with
  | case1 span rest hc =>
    obtain ⟨c, hc', h⟩ := bind_eq_ok.1 h
    cases h
    obtain ⟨hstretch, hstart, hrest⟩ := expect_placed hs.tail hc'
    exact ⟨hs.le_stop.trans hstart, hstretch, hrest⟩
  | case2 span rest hc ih =>
    obtain ⟨x, hx, h⟩ := bind_eq_ok.1 h
    obtain ⟨more, hm, h⟩ := bind_eq_ok.1 h
    cases h
    obtain ⟨b, hrow, hb⟩ := hi _ _ _ hs.tail hx
    obtain ⟨hmore, hstretch, hrest⟩ := ih x more hb hm
    refine ⟨?_, hstretch, hrest⟩
    rw [List.flatMap_cons]
    exact (hrow.mono hs.le_stop).append hmore
  | case3 s hs' =>
    obtain ⟨c, hc, h⟩ := bind_eq_ok.1 h
    cases h
    obtain ⟨hstretch, hstart, hrest⟩ := expect_placed hs hc
    exact ⟨hstart, hstretch, hrest⟩

theorem series_placed (hi : Placed source row item) {s} {p} (hs : InOrder source a s)
    (h : series item close trailing s = .ok p) :
    Row source p.value.2.start a (p.value.1.flatMap row) ∧ p.value.2.IsStretch source ∧
      InOrder source p.value.2.stop p.rest := by
  unfold series at h
  split at h
  · obtain ⟨c, hc, h⟩ := bind_eq_ok.1 h
    cases h
    obtain ⟨hstretch, hstart, hrest⟩ := expect_placed hs hc
    exact ⟨hstart, hstretch, hrest⟩
  · obtain ⟨x, hx, h⟩ := bind_eq_ok.1 h
    obtain ⟨more, hm, h⟩ := bind_eq_ok.1 h
    cases h
    obtain ⟨b, hrow, hb⟩ := hi _ _ _ hs hx
    obtain ⟨hmore, hstretch, hrest⟩ := moreItems_placed hi _ _ hb hm
    refine ⟨?_, hstretch, hrest⟩
    rw [List.flatMap_cons]
    exact hrow.append hmore

end Series

/-! ### Operands -/

section Operands

variable {nested : Reader SpannedExpr} (hn : Placed source alone nested)
include hn

theorem placed_entry : Placed source (fun p => [p.1, p.2]) (entry nested) := by
  intro a s p hs h
  unfold entry at h
  obtain ⟨k, hk, h⟩ := bind_eq_ok.1 h
  obtain ⟨c, hc, h⟩ := bind_eq_ok.1 h
  obtain ⟨v, hv, h⟩ := bind_eq_ok.1 h
  cases h
  obtain ⟨b, hkey, hb⟩ := hn _ _ _ hs hk
  obtain ⟨hcolon, hstart, hrest⟩ := expect_placed hb hc
  obtain ⟨b', hvalue, hb'⟩ := hn _ _ _ hrest hv
  exact ⟨b', hkey.append (hvalue.mono (hstart.trans hcolon.start_lt.le)), hb'⟩

omit hn in
private theorem flatMap_alone (es : List SpannedExpr) : es.flatMap alone = es := List.flatMap_singleton' es

omit hn in
/-- A row between two brackets. -/
private theorem row_bracketed {e : SpannedExpr} {es : List SpannedExpr} {s close : Span} (hs : s.IsStretch source)
    (ha : a ≤ s.start) (hrow : Row source close.start s.stop es) (hclose : close.IsStretch source)
    (hperm : e.children.Perm es) (hspan : e.span = s.through close) : Row source close.stop a [e] := by
  have hopen : s.start ≤ s.stop := hs.start_lt.le
  exact hrow.node hperm hspan hs hclose (hopen.trans hrow.le) hopen hclose.start_lt.le ha

theorem placed_primary : Placed source alone (primary nested) := by
  intro a s p hs h
  unfold primary at h
  split at h
  · cases h
    exact ⟨_, .leaf rfl hs.head.1 hs.head.2, hs.tail⟩
  · cases h
    exact ⟨_, .leaf rfl hs.head.1 hs.head.2, hs.tail⟩
  · cases h
  · -- parentheses leave no node, and the row of what is in them is a row around them too
    obtain ⟨e, he, h⟩ := bind_eq_ok.1 h
    obtain ⟨c, hc, h⟩ := bind_eq_ok.1 h
    cases h
    obtain ⟨b, hrow, hb⟩ := hn _ _ _ hs.tail he
    obtain ⟨hclose, hstart, hrest⟩ := expect_placed hb hc
    exact ⟨_, (hrow.mono hs.le_stop).mono_right (hstart.trans hclose.start_lt.le), hrest⟩
  · obtain ⟨items, hi, h⟩ := bind_eq_ok.1 h
    cases h
    obtain ⟨hrow, hclose, hrest⟩ := series_placed hn hs.tail hi
    rw [flatMap_alone] at hrow
    exact ⟨_, row_bracketed hs.head.1 hs.head.2 hrow hclose .rfl rfl, hrest⟩
  · obtain ⟨entries, he, h⟩ := bind_eq_ok.1 h
    cases h
    obtain ⟨hrow, hclose, hrest⟩ := series_placed (placed_entry hn) hs.tail he
    exact ⟨_, row_bracketed hs.head.1 hs.head.2 hrow hclose .rfl rfl, hrest⟩
  · cases h

omit hn in
/-- An operand with a row and a closing symbol behind it. -/
private theorem row_suffixed {e e' : SpannedExpr} {es : List SpannedExpr} {close : Span} (he : Row source b a [e])
    (hrow : Row source close.start b es) (hclose : close.IsStretch source) (hperm : e'.children.Perm (e :: es))
    (hspan : e'.span = e.span.through close) : Row source close.stop a [e'] := by
  have hall : Row source close.start e.span.start (e :: es) := ⟨Nat.le_refl _, he.2.1, hrow.mono he.2.2⟩
  exact hall.node hperm hspan he.2.1.stretch hclose hall.le (Nat.le_refl _) hclose.start_lt.le he.1

theorem suffixes_placed (e : SpannedExpr) (s) (p) (hs : InOrder source b s) (he : Row source b a [e])
    (h : suffixes nested e s = .ok p) : ∃ c, Row source c a [p.value] ∧ InOrder source c p.rest := by
  fun_induction suffixes nested e s generalizing b with
  | case1 e span rest ih =>
    obtain ⟨args, ha, h⟩ := bind_eq_ok.1 h
    obtain ⟨more, hm, h⟩ := bind_eq_ok.1 h
    cases h
    obtain ⟨hargs, hclose, hrest⟩ := series_placed hn hs.tail ha
    rw [flatMap_alone] at hargs
    have hrow := hargs.mono hs.le_stop
    exact ih args more hrest (row_suffixed he hrow hclose .rfl rfl) hm
  | case2 e span rest ih =>
    obtain ⟨i, hi, h⟩ := bind_eq_ok.1 h
    obtain ⟨c, hc, h⟩ := bind_eq_ok.1 h
    obtain ⟨more, hm, h⟩ := bind_eq_ok.1 h
    cases h
    obtain ⟨m, hidx, hm'⟩ := hn _ _ _ hs.tail hi
    obtain ⟨hclose, hstart, hrest⟩ := expect_placed hm' hc
    have hrow := (hidx.mono hs.le_stop).mono_right hstart
    exact ih i c more hrest (row_suffixed he hrow hclose .rfl rfl) hm
  | case3 e dot f span opening rest ih =>
    obtain ⟨args, ha, h⟩ := bind_eq_ok.1 h
    obtain ⟨more, hm, h⟩ := bind_eq_ok.1 h
    cases h
    have hname := hs.tail
    have hopen := hname.tail
    obtain ⟨hargs, hclose, hrest⟩ := series_placed hn hopen.tail ha
    rw [flatMap_alone] at hargs
    -- in the text the name of the method stands between the receiver and the arguments
    have hleaf : Row source span.stop b [Expr.name span f] :=
      .leaf rfl hname.head.1 (hs.le_stop.trans hname.head.2)
    have hrow := hleaf.append (hargs.mono hopen.le_stop)
    exact ih args more hrest (row_suffixed he hrow hclose (.swap ..) rfl) hm
  | case4 => cases h
  | case5 => cases h
  | case6 e s =>
    cases h
    exact ⟨b, he, hs⟩

theorem placed_operand : Placed source alone (operand nested) := by
  intro a s p hs h
  unfold operand at h
  obtain ⟨e, he, h⟩ := bind_eq_ok.1 h
  obtain ⟨more, hm, h⟩ := bind_eq_ok.1 h
  cases h
  obtain ⟨b, hrow, hb⟩ := placed_primary hn _ _ _ hs he
  exact suffixes_placed hn _ _ _ hb hrow hm

theorem placed_signed : Placed source alone (signed nested) := by
  intro a s p hs h
  unfold signed at h
  split at h
  · exact placed_operand hn _ _ _ hs h
  · rename_i t span rest
    split at h
    · exact placed_operand hn _ _ _ hs h
    · rename_i op hop
      simp only at h
      split at h
      · cases h
      · obtain ⟨e, he, h⟩ := bind_eq_ok.1 h
        cases h
        have hbehind := hs.tail.sublist (List.dropWhile_sublist (isSign op))
        obtain ⟨b, hrow, hb⟩ := placed_operand hn _ _ _ hbehind he
        obtain ⟨hstart, hnested, hstop⟩ := hrow
        have halone : Row source e.value.span.stop span.stop [e.value] := ⟨hstart, hnested, Nat.le_refl _⟩
        have hsign := hs.head.1.start_lt.le
        refine ⟨b, .mono_right (.node halone .rfl rfl hs.head.1 hnested.stretch ?_ hsign ?_ hs.head.2) hstop, hb⟩
        · exact hsign.trans hstart
        · exact Nat.le_refl _

end Operands

/-! ### Operators between operands -/

section Chains

variable {next : Reader SpannedExpr} (hn : Placed source alone next)
include hn

theorem following_placed (level : Level) (s) (p) (hs : InOrder source a s) (h : following next level s = .ok p) :
    ∃ b, Row source b a (p.value.map Prod.snd) ∧ InOrder source b p.rest := by
  fun_induction following next level s generalizing a with
  | case1 =>
    cases h
    exact ⟨a, Nat.le_refl a, hs⟩
  | case2 t rest hop =>
    cases h
    exact ⟨a, Nat.le_refl a, hs⟩
  | case3 t rest op hop ih =>
    obtain ⟨e, he, h⟩ := bind_eq_ok.1 h
    obtain ⟨more, hm, h⟩ := bind_eq_ok.1 h
    cases h
    obtain ⟨b, hrow, hb⟩ := hn _ _ _ hs.tail he
    obtain ⟨c, hmore, hc⟩ := ih e more hb hm
    exact ⟨c, (hrow.mono hs.le_stop).append hmore, hc⟩

omit hn in
/-- A node whose span goes from the first tree of a row to the last one. -/
private theorem row_joined {e first last : SpannedExpr} {es : List SpannedExpr} (h : Row source b a (first :: es))
    (hlast : (first :: es).getLast? = some last) (hperm : e.children.Perm (first :: es))
    (hspan : e.span = first.span.through last.span) : Row source b a [e] := by
  obtain ⟨hrow, hstop⟩ := h.upto_last hlast
  have hfrom : Row source last.span.stop first.span.start (first :: es) := ⟨Nat.le_refl _, hrow.2⟩
  have hmem : last ∈ first :: es := List.mem_of_getLast? hlast
  have hnode := hfrom.node hperm hspan h.2.1.stretch (h.nested_of_mem last hmem).stretch (hfrom.bounds last hmem).1
    (Nat.le_refl _) (Nat.le_refl _) h.1
  exact hnode.mono_right hstop

theorem placed_run (level : Level) : Placed source alone (run next level) := by
  intro a s p hs h
  unfold run at h
  obtain ⟨first, hf, h⟩ := bind_eq_ok.1 h
  obtain ⟨more, hm, h⟩ := bind_eq_ok.1 h
  cases h
  obtain ⟨b, hrow, hb⟩ := hn _ _ _ hs hf
  obtain ⟨c, hmore, hc⟩ := following_placed hn level _ _ hb hm
  have hall : Row source c a (first.value :: more.value.map Prod.snd) := hrow.append hmore
  refine ⟨c, ?_, hc⟩
  dsimp only
  cases hv : more.value with
  | nil =>
    rw [hv] at hall
    exact hall
  | cons o os =>
    rw [hv] at hall
    let chain : Chain SpannedExpr := ⟨first.value, o.1, o.2, os⟩
    exact row_joined hall chain.getLast?_operands .rfl rfl

theorem placed_comparison : Placed source alone (comparison next) := by
  intro a s p hs h
  unfold comparison at h
  obtain ⟨l, hl, h⟩ := bind_eq_ok.1 h
  obtain ⟨b, hrow, hb⟩ := hn _ _ _ hs hl
  split at h
  · cases h
    exact ⟨b, hrow, hb⟩
  · rename_i t rest hrest
    split at h
    · cases h
      exact ⟨b, hrow, hb⟩
    · obtain ⟨r, hr, h⟩ := bind_eq_ok.1 h
      split at h
      · cases h
      · cases h
        rw [hrest] at hb
        obtain ⟨c, hright, hc⟩ := hn _ _ _ hb.tail hr
        have hboth := hrow.append (hright.mono hb.le_stop)
        exact ⟨c, row_joined hboth rfl .rfl rfl, hc⟩

end Chains

/-! ### Expressions -/

section Expressions

variable {nested : Reader SpannedExpr} (hn : Placed source alone nested)
include hn

theorem placed_disjunction : Placed source alone (disjunction nested) := by
  have additive := placed_run (placed_run (placed_signed hn) .multiplicative) .additive
  exact placed_run (placed_run (placed_comparison additive) .and) .or

theorem placed_conditional : Placed source alone (conditional nested) := by
  intro a s p hs h
  unfold conditional at h
  obtain ⟨c, hc, h⟩ := bind_eq_ok.1 h
  obtain ⟨b, hcond, hb⟩ := placed_disjunction hn _ _ _ hs hc
  split at h
  · rename_i span rest hrest
    obtain ⟨y, hy, h⟩ := bind_eq_ok.1 h
    obtain ⟨colon, hcolon, h⟩ := bind_eq_ok.1 h
    obtain ⟨n, hn', h⟩ := bind_eq_ok.1 h
    cases h
    rw [hrest] at hb
    obtain ⟨b₁, hyes, hb₁⟩ := placed_disjunction hn _ _ _ hb.tail hy
    obtain ⟨hstretch, hstart, hb₂⟩ := expect_placed hb₁ hcolon
    obtain ⟨b₃, hno, hb₃⟩ := hn _ _ _ hb₂ hn'
    have hbranches := (hyes.mono hb.le_stop).append
      (hno.mono (hstart.trans hstretch.start_lt.le))
    exact ⟨b₃, row_joined (hcond.append hbranches) rfl .rfl rfl, hb₃⟩
  · cases h
    exact ⟨b, hcond, hb⟩

end Expressions

/-- The trees of expressions are nested. -/
theorem placed_exprWithin (source : String) (limit depth : Nat) : Placed source alone (exprWithin limit depth) := by
  induction depth with
  | zero => exact fun _ _ _ _ h => nomatch h
  | succ depth ih => exact placed_conditional ih

end Parser

/-! ### Whole texts -/

/-- In a tree that was read from a text each node stands at a stretch of the text, with the nodes directly below it in
this stretch and apart from one another. -/
theorem parse_encloses {limit : Nat} {source : String} {e : SpannedExpr} (h : parse limit source = .ok e) :
    ∀ n ∈ e.nodes, n.Encloses source ∧ n.span.stop ≤ source.utf8ByteSize := by
  have hnested : e.Nested source := by
    unfold parse at h
    split at h
    · rename_i tokens hlex
      rw [parseTokens_eq] at h
      split at h
      · rename_i p hp
        split at h
        · cases h
          obtain ⟨b, hrow, -⟩ := Parser.placed_exprWithin source limit limit _ _ _ (inOrder_of_lex hlex) hp
          exact hrow.2.1
        · cases h
      · cases h
    · cases h
  exact fun n hn => ⟨hnested n hn, (hnested n hn).stretch.stop_le⟩

/-- A method call in a list, with its name between the receiver and the argument in parentheses. -/
theorem parse_encloses_method :
    ∃ e, parse 4 "[m.f((-a))]" = .ok e ∧
      e.nodes.map Expr.span = [⟨0, 11⟩, ⟨1, 10⟩, ⟨3, 4⟩, ⟨1, 2⟩, ⟨6, 8⟩, ⟨7, 8⟩] ∧
      ∀ n ∈ e.nodes, n.Encloses "[m.f((-a))]" ∧ n.span.stop ≤ "[m.f((-a))]".utf8ByteSize := by
  have hrun : (parse 4 "[m.f((-a))]").toOption.map (fun e => e.nodes.map Expr.span) =
      some [⟨0, 11⟩, ⟨1, 10⟩, ⟨3, 4⟩, ⟨1, 2⟩, ⟨6, 8⟩, ⟨7, 8⟩] := by
    decide +kernel
  cases h : parse 4 "[m.f((-a))]" with
  | error e =>
    rw [h] at hrun
    cases hrun
  | ok e =>
    rw [h] at hrun
    exact ⟨e, rfl, Option.some.inj hrun, parse_encloses h⟩

end ExprLang
