import ExprLang.Proofs.Eval.Errors
import ExprLang.Proofs.Eval.History

/-!
# Overloads that are called directly

A call through the registry reaches an overload only with arguments that it accepts. Called directly, an overload
refuses all others as a mismatch, with two exceptions (`call_fails_iff`). One that reads texts does not see what stands
behind those that it takes (`ReadsTexts`), and one that converts takes the kinds of all overloads of its function
(`call_conversion_iff`).
-/

namespace ExprLang.Library

variable {f : Function} {o : Overload} {name : String} {kinds : List Kind} {args : List Value} {n : Nat}

/-- The names of the functions that convert values. -/
def conversions : List String := ["int", "uint", "double", "string"]

/-- The first `n` arguments are there and are texts. -/
def BeginsWithTexts (n : Nat) (args : List Value) : Prop := n ≤ args.length ∧ ∀ v ∈ args.take n, v.kind = .string

/-- The arguments begin with the texts that the overload reads, and there are more of them than it takes. -/
def OverlooksRest (f : Function) (o : Overload) (args : List Value) : Prop :=
  f.name ∉ conversions ∧ o.receiver = some .string ∧ o.arity < args.length ∧ BeginsWithTexts o.arity args

/-- The function converts, and one of its overloads accepts the arguments. -/
def ConvertsAnyway (f : Function) (args : List Value) : Prop :=
  f.name ∈ conversions ∧ ∃ p ∈ f.overloads, p.accepts args = true

/-- Arguments that the overload of the function does not accept are a mismatch, but for the two exceptions. -/
def Rejects (f : Function) (o : Overload) : Prop := ∀ args, o.accepts args = false →
  (FailsAs .typeMismatch (o.call args) ↔ ¬ (OverlooksRest f o args ∨ ConvertsAnyway f args))

/-! ### Errors that are no mismatches -/

@[simp] theorem kind_mismatch (name : String) (args : List Value) : (mismatch name args).kind = .typeMismatch := rfl

@[simp] theorem not_mismatch_toInt (operation : String) (n : Int) :
    ¬ FailsAs .typeMismatch (Arithmetic.toInt operation n) := by
  unfold Arithmetic.toInt
  split <;> simp [EvalError.kind]

@[simp] theorem not_mismatch_toUInt (operation : String) (n : Int) :
    ¬ FailsAs .typeMismatch (Arithmetic.toUInt operation n) := by
  unfold Arithmetic.toUInt
  split <;> simp [EvalError.kind]

@[simp] theorem not_mismatch_floatToInt (x : Float) : ¬ FailsAs .typeMismatch (floatToInt x) := by
  unfold floatToInt
  split <;> simp [EvalError.kind]

@[simp] theorem not_mismatch_floatToUInt (x : Float) : ¬ FailsAs .typeMismatch (floatToUInt x) := by
  unfold floatToUInt
  split <;> simp [EvalError.kind]

@[simp] theorem not_mismatch_orError {α : Type} (message : String) (found : Option α) :
    ¬ FailsAs .typeMismatch (orError (.invalidArgument message) found) := by
  cases found <;> simp [orError, EvalError.kind]

@[simp] theorem not_mismatch_length (n : Nat) : ¬ FailsAs .typeMismatch (length n) := by simp [length]

@[simp] theorem not_mismatch_matchesPattern (matcher : Matcher) (text pattern : String) :
    ¬ FailsAs .typeMismatch (matchesPattern matcher text pattern) := by
  unfold matchesPattern
  split <;> simp [EvalError.kind]

/-! ### Overloads that look at all arguments -/

theorem rejects_of_strict (hname : f.name ∉ conversions) (hreceiver : o.receiver ≠ some .string)
    (h : ∀ args, o.accepts args = false → FailsAs .typeMismatch (o.call args)) : Rejects f o := by
  intro args hargs
  refine iff_of_true (h args hargs) ?_
  rintro (⟨-, hstring, -⟩ | ⟨hconversion, -⟩)
  · exact hreceiver hstring
  · exact hname hconversion

theorem rejects_size (ho : o ∈ size.overloads.tail) : Rejects size o := by
  simp only [size, List.tail_cons, List.mem_cons, List.not_mem_nil, or_false] at ho
  rcases ho with rfl | rfl | rfl
  all_goals
    refine rejects_of_strict (by decide) (by simp) fun args hargs => ?_
    dsimp only
    split
    · simp [Overload.accepts, Value.kind] at hargs
    · exact failsAs_error_iff.mpr rfl

theorem rejects_contains (ho : o ∈ contains.overloads.tail) : Rejects contains o := by
  simp only [contains, List.tail_cons, List.mem_singleton] at ho
  subst ho
  refine rejects_of_strict (by decide) (by simp) fun args hargs => ?_
  dsimp only
  split
  · simp [Overload.accepts, Value.kind] at hargs
  · exact failsAs_error_iff.mpr rfl

/-! ### Overloads that read texts -/

theorem beginsWithTexts_zero (args : List Value) : BeginsWithTexts 0 args :=
  ⟨Nat.zero_le _, fun v hv => by simp at hv⟩

theorem beginsWithTexts_succ :
    BeginsWithTexts (n + 1) args ↔ ∃ s rest, args = .string s :: rest ∧ BeginsWithTexts n rest := by
  constructor
  · rintro ⟨hlength, htexts⟩
    cases args with
    | nil => simp at hlength
    | cons v rest =>
      rw [List.take_succ_cons, List.forall_mem_cons] at htexts
      obtain ⟨hv, hrest⟩ := htexts
      cases v with
      | string s => exact ⟨s, rest, rfl, Nat.le_of_succ_le_succ hlength, hrest⟩
      | _ => cases hv
  · rintro ⟨s, rest, rfl, hlength, htexts⟩
    refine ⟨Nat.succ_le_succ hlength, ?_⟩
    rw [List.take_succ_cons, List.forall_mem_cons]
    exact ⟨rfl, htexts⟩

/-- The overload takes texts, and looks at no more arguments than it takes. -/
structure ReadsTexts (o : Overload) : Prop where
  receiver : o.receiver = some .string
  arity : 0 < o.arity
  fails_iff : ∀ args, FailsAs .typeMismatch (o.call args) ↔ ¬ BeginsWithTexts o.arity args

theorem accepts_of_texts (ho : ReadsTexts o) (hlength : o.arity = args.length)
    (htexts : BeginsWithTexts o.arity args) : o.accepts args = true := by
  rw [Overload.accepts_iff, Overload.Fits, ho.receiver]
  refine ⟨hlength, fun kind hkind => ?_⟩
  obtain rfl := Option.some.inj hkind
  obtain ⟨n, hn⟩ := Nat.exists_eq_add_one.mpr ho.arity
  rw [hn, beginsWithTexts_succ] at htexts
  obtain ⟨s, rest, rfl, -⟩ := htexts
  exact ⟨.string s, rfl, rfl⟩

theorem rejects_of_readsTexts (hname : f.name ∉ conversions) (ho : ReadsTexts o) : Rejects f o := by
  intro args hargs
  have hconverts : ¬ ConvertsAnyway f args := fun h => hname h.1
  rw [ho.fails_iff, or_iff_left hconverts, not_iff_not]
  constructor
  · intro htexts
    have hne : o.arity ≠ args.length := by
      intro harity
      rw [accepts_of_texts ho harity htexts] at hargs
      cases hargs
    exact ⟨hname, ho.receiver, Nat.lt_of_le_of_ne htexts.1 hne, htexts⟩
  · rintro ⟨-, -, -, htexts⟩
    exact htexts

theorem readsTexts_onStrings {test : String → String → Outcome Bool}
    (htest : ∀ s t, ¬ FailsAs .typeMismatch (test s t)) : ReadsTexts (onStrings name test) where
  receiver := rfl
  arity := Nat.succ_pos 1
  fails_iff args := by
    simp only [onStrings, beginsWithTexts_succ]
    split
    · rename_i s t rest
      refine iff_of_false (by simp [htest]) (not_not.mpr ?_)
      exact ⟨s, _, rfl, t, rest, rfl, beginsWithTexts_zero rest⟩
    · rename_i hshape
      refine iff_of_true (failsAs_error_iff.mpr rfl) ?_
      rintro ⟨s, _, rfl, t, rest, rfl, -⟩
      exact hshape s t rest rfl

theorem readsTexts_size (ho : o ∈ size.overloads.head?) : ReadsTexts o := by
  obtain rfl := Option.some.inj ho
  refine ⟨rfl, Nat.succ_pos 0, fun args => ?_⟩
  simp only [beginsWithTexts_succ]
  split
  · rename_i s rest
    refine iff_of_false (not_mismatch_length _) (not_not.mpr ?_)
    exact ⟨s, rest, rfl, beginsWithTexts_zero rest⟩
  · rename_i hshape
    refine iff_of_true (failsAs_error_iff.mpr rfl) ?_
    rintro ⟨s, rest, rfl, -⟩
    exact hshape s rest rfl

/-! ### Overloads that convert -/

theorem accepts_conversion_iff {convert : Value → Outcome Value} :
    (∃ p ∈ (conversion name kinds convert).overloads, p.accepts args = true) ↔ ∃ v, args = [v] ∧ v.kind ∈ kinds := by
  simp only [conversion, List.mem_map, exists_exists_and_eq_and, Overload.accepts_iff, Overload.Fits]
  constructor
  · rintro ⟨kind, hkind, hlength, hfirst⟩
    obtain ⟨v, rfl⟩ := List.length_eq_one_iff.mp hlength.symm
    obtain ⟨w, hw, rfl⟩ := hfirst kind rfl
    obtain rfl := Option.some.inj hw
    exact ⟨v, rfl, hkind⟩
  · rintro ⟨v, rfl, hkind⟩
    exact ⟨v.kind, hkind, rfl, fun kind hv => ⟨v, rfl, Option.some.inj hv⟩⟩

/-- What the overloads of a conversion do with their arguments does not depend on the overload. -/
theorem call_conversion_iff {convert : Value → Outcome Value}
    (hconvert : ∀ v, FailsAs .typeMismatch (convert v) ↔ v.kind ∉ kinds)
    (ho : o ∈ (conversion name kinds convert).overloads) (args : List Value) :
    FailsAs .typeMismatch (o.call args) ↔
      ¬ ∃ p ∈ (conversion name kinds convert).overloads, p.accepts args = true := by
  obtain ⟨kind, -, rfl⟩ := List.mem_map.mp ho
  rw [accepts_conversion_iff]
  dsimp only
  split
  · rename_i v
    simp [hconvert]
  · rename_i hshape
    refine iff_of_true (failsAs_error_iff.mpr rfl) ?_
    rintro ⟨v, rfl, -⟩
    exact hshape v rfl

theorem rejects_conversion {convert : Value → Outcome Value} (hname : name ∈ conversions)
    (hconvert : ∀ v, FailsAs .typeMismatch (convert v) ↔ v.kind ∉ kinds) :
    ∀ o ∈ (conversion name kinds convert).overloads, Rejects (conversion name kinds convert) o := by
  intro o ho args _
  rw [call_conversion_iff hconvert ho, not_iff_not]
  constructor
  · exact fun h => .inr ⟨hname, h⟩
  · rintro (⟨hnot, -⟩ | ⟨-, h⟩)
    · exact absurd hname hnot
    · exact h

theorem mismatch_toInt_iff (v : Value) : FailsAs .typeMismatch (toInt v) ↔ v.kind ∉ numericOrString := by
  cases v <;> simp [toInt, numericOrString, notConvertible, Value.kind]

theorem mismatch_toUInt_iff (v : Value) : FailsAs .typeMismatch (toUInt v) ↔ v.kind ∉ numericOrString := by
  cases v <;> simp [toUInt, numericOrString, notConvertible, Value.kind]

theorem mismatch_toDouble_iff (v : Value) : FailsAs .typeMismatch (toDouble v) ↔ v.kind ∉ numericOrString := by
  cases v <;> simp [toDouble, numericOrString, notConvertible, Value.kind]

theorem mismatch_toText_iff (v : Value) :
    FailsAs .typeMismatch (toText v) ↔ v.kind ∉ [Kind.string, .bool, .int, .uint, .float, .bytes] := by
  cases v <;> simp [toText, Value.kind]

/-! ### The standard functions -/

theorem functions_standardWith (matcher : Matcher) : (standardWith matcher).functions =
    [size, startsWith, endsWith, contains, matching matcher, int, uint, double, string] := rfl

/-- An overload of a standard function that is called with arguments that it does not accept fails as a mismatch, unless
it reads texts and finds them in front of further arguments, or it converts and another overload of its function accepts
the arguments. -/
theorem call_fails_iff (matcher : Matcher) (f : Function) (hf : f ∈ (standardWith matcher).functions) (o : Overload)
    (ho : o ∈ f.overloads) (args : List Value) (hargs : o.accepts args = false) :
    FailsAs .typeMismatch (o.call args) ↔ ¬ (OverlooksRest f o args ∨ ConvertsAnyway f args) := by
  suffices Rejects f o from this args hargs
  simp only [functions_standardWith, List.mem_cons, List.not_mem_nil, or_false] at hf
  rcases hf with rfl | rfl | rfl | rfl | rfl | rfl | rfl | rfl | rfl
  · rcases List.mem_cons.mp ho with rfl | htail
    · exact rejects_of_readsTexts (by decide) (readsTexts_size rfl)
    · exact rejects_size htail
  · obtain rfl := List.mem_singleton.mp ho
    exact rejects_of_readsTexts (by decide) (readsTexts_onStrings fun _ _ => not_failsAs_ok _ _)
  · obtain rfl := List.mem_singleton.mp ho
    exact rejects_of_readsTexts (by decide) (readsTexts_onStrings fun _ _ => not_failsAs_ok _ _)
  · rcases List.mem_cons.mp ho with rfl | htail
    · exact rejects_of_readsTexts (by decide) (readsTexts_onStrings fun _ _ => not_failsAs_ok _ _)
    · exact rejects_contains htail
  · obtain rfl := List.mem_singleton.mp ho
    have hname : "matches" ∉ conversions := by decide
    exact rejects_of_readsTexts hname (readsTexts_onStrings (not_mismatch_matchesPattern matcher))
  · exact rejects_conversion (by decide) mismatch_toInt_iff o ho
  · exact rejects_conversion (by decide) mismatch_toUInt_iff o ho
  · exact rejects_conversion (by decide) mismatch_toDouble_iff o ho
  · exact rejects_conversion (by decide) mismatch_toText_iff o ho

/-- The size of a list refuses a text. The test for a part of a text answers though a third argument stands behind the
two texts, and the conversion of a double to `int` converts an `int`. -/
theorem call_fails_for_text :
    (∃ o ∈ size.overloads, o.id = "size_list" ∧ o.accepts [.string "a"] = false ∧
      FailsAs .typeMismatch (o.call [.string "a"])) ∧
    (∃ o ∈ contains.overloads, o.id = "contains_string" ∧ o.accepts [.string "ab", .string "a", .null] = false ∧
      ¬ FailsAs .typeMismatch (o.call [.string "ab", .string "a", .null])) ∧
    (∃ o ∈ int.overloads, o.id = "int_float" ∧ o.accepts [.int 1] = false ∧
      ¬ FailsAs .typeMismatch (o.call [.int 1])) := by
  refine ⟨⟨_, List.getElem_mem (by decide : 2 < size.overloads.length), rfl, rfl, ?_⟩,
    ⟨_, List.mem_cons_self, rfl, rfl, ?_⟩,
    ⟨_, List.getElem_mem (by decide : 2 < int.overloads.length), rfl, rfl, ?_⟩⟩
  · refine (call_fails_iff Regex.matcher size (by simp [functions_standardWith]) _ (List.getElem_mem _) _ rfl).mpr ?_
    rintro (⟨-, hreceiver, -⟩ | ⟨hconversion, -⟩)
    · cases hreceiver
    · exact absurd hconversion (by decide)
  · rw [call_fails_iff Regex.matcher contains (by simp [functions_standardWith]) _ List.mem_cons_self _ rfl, not_not]
    refine .inl ⟨by decide, rfl, by decide, by decide, ?_⟩
    simp [onStrings, Value.kind]
  · rw [call_fails_iff Regex.matcher int (by simp [functions_standardWith]) _ (List.getElem_mem _) _ rfl, not_not]
    exact .inr ⟨by decide, _, List.mem_cons_self, rfl⟩

/-- Not all arguments that an overload does not accept are a mismatch: the size of a text does not see a second text. -/
theorem not_call_fails : ¬ ∀ f ∈ standard.functions, ∀ o ∈ f.overloads, ∀ args : List Value,
    o.accepts args = false → FailsAs .typeMismatch (o.call args) := by
  intro h
  have hfails := h size List.mem_cons_self _ List.mem_cons_self [.string "a", .string "b"] rfl
  exact not_mismatch_length "a".length hfails

end ExprLang.Library
