import ExprLang.Value.Key

/-!
# Maps with ordered keys

A map holds its keys in strictly ascending order, each with its value, so two maps with the same entries are equal
and the order in which entries came leaves no trace. `entries` is the view of a map as a list. `insert` replaces the
value of a key that is there already; of several entries with one key `ofList` keeps the last.
-/

namespace ExprLang

/-- A map from keys to `β`, with the keys in ascending order. -/
structure KeyMap (β : Type) where
  keys : List Key
  ascending : keys.Pairwise (· < ·)
  value : Fin keys.length → β

namespace KeyMap

variable {β : Type}

def size (m : KeyMap β) : Nat := m.keys.length

/-- The entries in the order of their keys. -/
def entries (m : KeyMap β) : List (Key × β) := m.keys.zip (List.ofFn m.value)

/-- The map with the given entries, whose keys ascend. -/
def ofAscending (es : List (Key × β)) (h : (es.map Prod.fst).Pairwise (· < ·)) : KeyMap β :=
  ⟨es.map Prod.fst, h, fun i => (es.get (i.cast (List.length_map _))).2⟩

def empty : KeyMap β := ofAscending [] List.Pairwise.nil

instance : Inhabited (KeyMap β) := ⟨empty⟩

/-- The value of exactly this key. -/
def get? (m : KeyMap β) (k : Key) : Option β := (m.entries.find? fun e => e.1 = k).map Prod.snd

def contains (m : KeyMap β) (k : Key) : Bool := k ∈ m.keys

/-- The entries with one more at its place; an entry with the same key is replaced. -/
def insertEntry (k : Key) (v : β) : List (Key × β) → List (Key × β)
  | [] => [(k, v)]
  | e :: es =>
    if k < e.1 then (k, v) :: e :: es
    else if k = e.1 then (k, v) :: es
    else e :: insertEntry k v es

/-- The entries of the list, ascending, of those with one key the last. -/
def sorted (es : List (Key × β)) : List (Key × β) := es.foldl (fun acc e => insertEntry e.1 e.2 acc) []

/-! ### The order of entries -/

theorem keys_entries (m : KeyMap β) : m.entries.map Prod.fst = m.keys := by
  simp [entries, List.map_fst_zip]

theorem entries_ofAscending (es : List (Key × β)) (h : (es.map Prod.fst).Pairwise (· < ·)) :
    (ofAscending es h).entries = es := by
  apply List.ext_getElem
  · simp [entries, ofAscending]
  · intro i h₁ h₂
    simp [entries, ofAscending]

/-- A key of the entries after an insertion is the inserted one or was there before. -/
theorem mem_keys_insertEntry {k x : Key} {v : β} {es : List (Key × β)} :
    x ∈ (insertEntry k v es).map Prod.fst → x = k ∨ x ∈ es.map Prod.fst := by
  induction es with
  | nil => simp [insertEntry]
  | cons e es ih =>
    simp only [insertEntry]
    split
    · simp
    · split
      · simp only [List.map_cons, List.mem_cons]
        exact fun h => h.imp id Or.inr
      · simp only [List.map_cons, List.mem_cons]
        intro h
        rcases h with h | h
        · exact Or.inr (Or.inl h)
        · exact (ih h).imp id Or.inr

theorem pairwise_insertEntry (k : Key) (v : β) {es : List (Key × β)}
    (h : (es.map Prod.fst).Pairwise (· < ·)) : ((insertEntry k v es).map Prod.fst).Pairwise (· < ·) := by
  induction es with
  | nil => simp [insertEntry]
  | cons e es ih =>
    have ⟨head, tail⟩ := List.pairwise_cons.mp h
    simp only [insertEntry]
    split
    · rename_i hlt
      refine List.pairwise_cons.mpr ⟨fun x hx => ?_, h⟩
      rcases List.mem_cons.mp hx with rfl | hx
      · exact hlt
      · exact Key.lt_trans hlt (head x hx)
    · split
      · rename_i heq
        refine List.pairwise_cons.mpr ⟨fun x hx => ?_, tail⟩
        show k < x
        rw [heq]
        exact head x hx
      · rename_i hlt hne
        refine List.pairwise_cons.mpr ⟨fun x hx => ?_, ih tail⟩
        rcases mem_keys_insertEntry hx with rfl | hx
        · rcases Key.lt_trichotomy x e.1 with h | h | h
          · exact absurd h hlt
          · exact absurd h hne
          · exact h
        · exact head x hx

theorem pairwise_sorted (es : List (Key × β)) : ((sorted es).map Prod.fst).Pairwise (· < ·) := by
  have : ∀ (es acc : List (Key × β)), (acc.map Prod.fst).Pairwise (· < ·) →
      ((es.foldl (fun acc e => insertEntry e.1 e.2 acc) acc).map Prod.fst).Pairwise (· < ·) := by
    intro es
    induction es with
    | nil => exact fun _ h => h
    | cons e es ih => exact fun acc h => ih _ (pairwise_insertEntry _ _ h)
  exact this es [] List.Pairwise.nil

/-! ### Making maps -/

/-- The map with one more entry; an entry with the same key is replaced. -/
def insert (m : KeyMap β) (k : Key) (v : β) : KeyMap β :=
  ofAscending (insertEntry k v m.entries) (pairwise_insertEntry k v (by rw [keys_entries]; exact m.ascending))

/-- The map with the entries of a list; of those with one key the last counts. -/
def ofList (es : List (Key × β)) : KeyMap β := ofAscending (sorted es) (pairwise_sorted es)

/-! ### Pairs of keys -/

/-- The value in `b` of the key that pairs with `k` of `a`: the same key, or else its twin, unless `a` holds the twin
too. -/
def partner? (a b : KeyMap β) (k : Key) : Option β :=
  b.get? k <|> (k.twin?.filter fun t => !a.contains t).bind b.get?

/-- The value of the key, or else of its twin. -/
def find? (m : KeyMap β) (k : Key) : Option β := m.get? k <|> k.twin?.bind m.get?

end KeyMap

end ExprLang
