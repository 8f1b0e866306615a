import Mathlib.Data.List.Find
import ExprLang.Proofs.Token.Lexical

/-!
# How far a lexeme reaches

Every rule matches at least one character and stays within the text, and so does what is recognised
(`bounded_recognise`). No rule matches more than what is recognised (`le_of_recognise`). A token is read from the
lexeme at the head of the text (`tokenOf_head`), the body of a quoted literal from behind its opening, so that the
scanner goes on by at least one character and not beyond the text (`length_head`).
-/

namespace ExprLang

namespace Lexeme

open Digits (isDigit runLength)

variable {cs : List Char} {l : Lexeme} {n : Nat}

/-! ### Bounds -/

private theorem runLength_le (base : Nat) (cs : List Char) : runLength base cs ≤ cs.length :=
  (List.takeWhile_prefix _).length_le

private theorem length_pos_of_drop {c : Char} {ds : List Char} (h : cs.drop n = c :: ds) : n < cs.length := by
  have := congrArg List.length h
  rw [List.length_drop, List.length_cons] at this
  omega

/-- A match has at least one character and ends within the text. -/
def Bounded (cs : List Char) (x : Option (Lexeme × Nat)) : Prop := ∀ l n, x = some (l, n) → 0 < n ∧ n ≤ cs.length

private theorem bounded_digits (base : Nat) (cs : List Char) : Bounded cs (digits base cs) := by
  intro l n h
  have hle := runLength_le base cs
  unfold digits at h
  dsimp only at h
  split at h
  · cases h
  · split at h
    · rename_i hdrop
      have := length_pos_of_drop hdrop
      cases h
      omega
    · rename_i hdrop
      have := length_pos_of_drop hdrop
      cases h
      omega
    · cases h
      omega

private theorem bounded_hexadecimal (cs : List Char) : Bounded cs (hexadecimal cs) := by
  have hbehind {ds : List Char} (c d : Char) :
      Bounded (c :: d :: ds) ((digits 16 ds).map fun p => (p.1, p.2 + 2)) := by
    intro l n h
    obtain ⟨⟨k, m⟩, hdigits, hx⟩ := Option.map_eq_some_iff.mp h
    have := bounded_digits _ _ _ _ hdigits
    cases hx
    simp only [List.length_cons]
    omega
  unfold hexadecimal
  split
  · exact hbehind _ _
  · exact hbehind _ _
  · rintro _ _ ⟨⟩

/-- The length of a sign. -/
def signLength : List Char → Nat
  | '+' :: _ | '-' :: _ => 1
  | _ => 0

theorem exponentLength_cons (c : Char) (cs : List Char) : exponentLength (c :: cs) =
    if c = 'e' ∨ c = 'E' then
      if runLength 10 (cs.drop (signLength cs)) = 0 then 0
      else 1 + signLength cs + runLength 10 (cs.drop (signLength cs))
    else 0 := by
  rw [exponentLength.eq_def]
  rfl

theorem signLength_le (cs : List Char) : signLength cs ≤ cs.length := by
  unfold signLength
  split <;> simp

private theorem exponentLength_le (cs : List Char) : exponentLength cs ≤ cs.length := by
  cases cs with
  | nil => exact Nat.le_refl _
  | cons c cs =>
    have hrun := runLength_le 10 (cs.drop (signLength cs))
    have hsign := signLength_le cs
    rw [List.length_drop] at hrun
    rw [exponentLength_cons, List.length_cons]
    split
    · split <;> omega
    · omega

private theorem bounded_real (cs : List Char) : Bounded cs (real cs) := by
  intro l n h
  have hrun := runLength_le 10 cs
  unfold real at h
  dsimp only at h
  split at h
  · rename_i r hdrop
    have hlen := congrArg List.length hdrop
    have hrun' := runLength_le 10 r
    have hexp := exponentLength_le (cs.drop (runLength 10 cs + 1 + runLength 10 r))
    have hexp' := exponentLength_le (cs.drop (runLength 10 cs))
    rw [List.length_drop] at hlen hexp hexp'
    rw [List.length_cons] at hlen
    split at h
    · cases h
      omega
    · split at h
      · cases h
        omega
      · cases h
  · have hexp := exponentLength_le (cs.drop (runLength 10 cs))
    rw [List.length_drop] at hexp
    rw [if_neg (by simp)] at h
    split at h
    · cases h
      omega
    · cases h

private theorem quote?_bounds {q : Char} {tripled : Bool} (h : quote? cs = some (q, tripled)) :
    0 < cs.length ∧ (tripled = true → 3 ≤ cs.length) := by
  cases cs with
  | nil => cases h
  | cons c cs =>
    rw [quote?] at h
    split at h
    · cases h
      refine ⟨by simp, fun h => ?_⟩
      have := (List.isPrefixOf_iff_prefix.mp h).length_le
      simp only [List.length_cons, List.length_nil] at this ⊢
      omega
    · cases h

private theorem bounded_opening (isBytes isRaw : Bool) (count : Nat) (cs : List Char) :
    Bounded cs (opening isBytes isRaw count cs) := by
  intro l n h
  obtain ⟨⟨q, tripled⟩, hquote, hx⟩ := Option.map_eq_some_iff.mp h
  obtain ⟨hpos, htripled⟩ := quote?_bounds hquote
  rw [List.length_drop] at hpos htripled
  dsimp only at hx
  split at hx
  · rename_i hcond
    have := htripled (by simp at hcond; exact hcond.1)
    cases hx
    omega
  · cases hx
    omega

private theorem bounded_literalOpening (cs : List Char) : Bounded cs (literalOpening cs) := by
  unfold literalOpening
  split
  · rintro _ _ ⟨⟩
  · split
    · exact bounded_opening _ _ _ _
    · split
      · split <;> exact bounded_opening _ _ _ _
      · exact bounded_opening _ _ _ _

private theorem bounded_symbols (cs : List Char) : Bounded cs (symbols cs) := by
  intro l n h
  obtain ⟨s, hfind, hx⟩ := Option.map_eq_some_iff.mp h
  have hmatch : s.text.toList.isPrefixOf cs = true := by simpa using List.find?_some hfind
  have hspelt := (List.isPrefixOf_iff_prefix.mp hmatch).length_le
  have hpos : 0 < s.text.toList.length := by cases s <;> decide
  cases hx
  exact ⟨hpos, hspelt⟩

private theorem bounded_blanks (cs : List Char) : Bounded cs (blanks cs) := by
  intro l n h
  have hle : (cs.takeWhile isBlank).length ≤ cs.length := (List.takeWhile_prefix _).length_le
  unfold blanks at h
  dsimp only at h
  split at h
  · cases h
  · cases h
    omega

private theorem bounded_comment (cs : List Char) : Bounded cs (comment cs) := by
  intro l n h
  unfold comment at h
  split at h
  · rename_i cs
    have hle : (cs.takeWhile (· ≠ '\n')).length ≤ cs.length := (List.takeWhile_prefix _).length_le
    cases h
    simp only [List.length_cons]
    omega
  · cases h

private theorem bounded_words (cs : List Char) : Bounded cs (words cs) := by
  intro l n h
  unfold words at h
  split at h
  · rename_i c cs
    have hle : (cs.takeWhile isWordChar).length ≤ cs.length := (List.takeWhile_prefix _).length_le
    split at h
    · cases h
      simp only [List.length_cons]
      omega
    · cases h
  · cases h

/-- Every rule matches at least one character and stays within the text. -/
theorem bounded_rule {rule : Rule} (hrule : rule ∈ rules) (cs : List Char) : Bounded cs (rule cs) := by
  simp only [rules, List.mem_cons, List.not_mem_nil, or_false] at hrule
  rcases hrule with rfl | rfl | rfl | rfl | rfl | rfl | rfl | rfl
  · exact bounded_blanks cs
  · exact bounded_comment cs
  · exact bounded_digits 10 cs
  · exact bounded_hexadecimal cs
  · exact bounded_real cs
  · exact bounded_literalOpening cs
  · exact bounded_words cs
  · exact bounded_symbols cs

theorem mem_rules_of_mem_rulesFor {rule : Rule} (h : rule ∈ l.rulesFor) : rule ∈ rules := by
  cases l <;>
    simp only [rulesFor, List.mem_cons, List.not_mem_nil, or_false] at h <;>
    simp only [rules, List.mem_cons, h, true_or, or_true]
  all_goals rcases h with rfl | rfl <;> simp

theorem bounded_recognise (cs : List Char) : Bounded cs (recognise cs) := by
  intro l n h
  obtain ⟨rule, hmem, hrule⟩ := rule_of_recognise h
  exact bounded_rule (mem_rules_of_mem_rulesFor hmem) cs l n hrule

/-! ### The longest match -/

private theorem le_longer_left (x : Lexeme × Nat) (b : Option (Lexeme × Nat)) :
    ∃ y, longer (some x) b = some y ∧ x.2 ≤ y.2 := by
  cases b with
  | none => exact ⟨x, rfl, Nat.le_refl _⟩
  | some y =>
    rw [longer]
    split
    · exact ⟨y, rfl, by omega⟩
    · exact ⟨x, rfl, Nat.le_refl _⟩

private theorem le_longer_right (a : Option (Lexeme × Nat)) (x : Lexeme × Nat) :
    ∃ y, longer a (some x) = some y ∧ x.2 ≤ y.2 := by
  cases a with
  | none => exact ⟨x, rfl, Nat.le_refl _⟩
  | some y =>
    rw [longer]
    split
    · exact ⟨x, rfl, Nat.le_refl _⟩
    · exact ⟨y, rfl, by omega⟩

private theorem le_foldl {rs : List Rule} {best : Option (Lexeme × Nat)} {x y : Lexeme × Nat}
    (h : rs.foldl (fun best rule => longer best (rule cs)) best = some y) :
    (best = some x → x.2 ≤ y.2) ∧ ∀ rule ∈ rs, rule cs = some x → x.2 ≤ y.2 := by
  induction rs generalizing best x with
  | nil =>
    constructor
    · intro hbest
      cases hbest.symm.trans h
      exact Nat.le_refl _
    · nofun
  | cons rule rs ih =>
    constructor
    · rintro rfl
      obtain ⟨z, hz, hle⟩ := le_longer_left x (rule cs)
      exact hle.trans ((ih h).1 hz)
    · intro rule' hmem hx
      rcases List.mem_cons.mp hmem with rfl | hmem
      · obtain ⟨z, hz, hle⟩ := le_longer_right best x
        rw [← hx] at hz
        exact hle.trans ((ih h).1 hz)
      · exact (ih h).2 rule' hmem hx

/-- No rule matches more than what is recognised. -/
theorem le_of_recognise {rule : Rule} {k : Lexeme} {m : Nat} (h : recognise cs = some (l, n)) (hrule : rule ∈ rules)
    (hx : rule cs = some (k, m)) : m ≤ n := (le_foldl h).2 rule hrule hx

/-! ### Tokens -/

theorem isLocal_quotedToken? (o : Opening) : Quoted.IsLocal (quotedToken? o) := by
  unfold quotedToken?
  split
  · exact (Quoted.isLocal_decode o.quote).map fun _ _ _ => rfl
  · exact (Quoted.isLocal_raw o.quote).map fun _ _ _ => rfl
  · exact (Quoted.isLocal_verbatim o.quote).map fun _ _ _ => rfl

/-- The opening tells whether the literal is a text or a byte string. -/
theorem exists_literal_of_quotedToken? {o : Opening} {t : Token} {rest : List Char}
    (h : quotedToken? o cs = some (t, rest)) :
    ∃ s bs, t = .literal (if o.isBytes then .bytes bs else .string s) := by
  unfold quotedToken? at h
  split at h
  all_goals
    obtain ⟨a, -, ha⟩ := Option.map_eq_some_iff.mp h
    cases ha
    exact ⟨_, _, rfl⟩

/-- The body of a quoted literal is read behind the opening. -/
theorem opening_le_of_quotedToken? {o : Opening} {k : Nat} {t : Token} {rest : List Char} (hk : k ≤ cs.length)
    (h : quotedToken? o (cs.drop k) = some (t, rest)) : k ≤ cs.length - rest.length := by
  obtain ⟨w, hw, -⟩ := isLocal_quotedToken? o _ _ _ h
  have hlen := congrArg List.length hw
  rw [List.length_drop, List.length_append] at hlen
  omega

end Lexeme

namespace Scan

/-- How many characters have been looked at. -/
def length : Scan → Nat
  | blank n | token _ n | reject n => n

theorem length_ofToken? (t : Option Token) (n : Nat) : (ofToken? t n).length = n := by
  cases t <;> rfl

theorem ofToken?_eq_token_iff {o : Option Token} {t : Token} {k n : Nat} :
    ofToken? o k = .token t n ↔ o = some t ∧ k = n := by
  cases o <;> simp [ofToken?]

/-- What a token is read from, for each kind of lexeme. -/
inductive TokenOf (cs : List Char) : Token → Nat → Prop
  | integer {base k n} (h : Lexeme.recognise cs = some (.integer base, n)) : TokenOf cs (.literal (.int k)) n
  | unsigned {base k n} (h : Lexeme.recognise cs = some (.unsigned base, n)) : TokenOf cs (.literal (.uint k)) n
  | float {f n} (h : Lexeme.recognise cs = some (.float, n)) : TokenOf cs (.literal (.float f)) n
  | string {o s k rest} (h : Lexeme.recognise cs = some (.quoted o, k))
      (hbody : Lexeme.quotedToken? o (cs.drop k) = some (.literal (.string s), rest)) :
      TokenOf cs (.literal (.string s)) (cs.length - rest.length)
  | bytes {o bs k rest} (h : Lexeme.recognise cs = some (.quoted o, k))
      (hbody : Lexeme.quotedToken? o (cs.drop k) = some (.literal (.bytes bs), rest)) :
      TokenOf cs (.literal (.bytes bs)) (cs.length - rest.length)
  | word {n} (h : Lexeme.recognise cs = some (.word, n)) : TokenOf cs (.ofWord (String.ofList (cs.take n))) n
  | symbol {y n} (h : Lexeme.recognise cs = some (.sign y, n)) : TokenOf cs (.symbol y) n

private theorem tokenOf_quoted {cs rest : List Char} {o : Opening} {k : Nat} {t : Token}
    (h : Lexeme.recognise cs = some (.quoted o, k)) (hbody : Lexeme.quotedToken? o (cs.drop k) = some (t, rest)) :
    TokenOf cs t (cs.length - rest.length) := by
  obtain ⟨s, bs, rfl⟩ := Lexeme.exists_literal_of_quotedToken? hbody
  cases hbytes : o.isBytes with
  | false =>
    rw [hbytes] at hbody
    exact .string h hbody
  | true =>
    rw [hbytes] at hbody
    exact .bytes h hbody

theorem tokenOf_head {cs : List Char} {t : Token} {n : Nat} (h : head cs = .token t n) : TokenOf cs t n := by
  unfold head at h
  split at h
  · cases h
  · cases h
  · rename_i hrec
    obtain ⟨htoken, rfl⟩ := ofToken?_eq_token_iff.mp h
    rw [Lexeme.integerToken?, Option.bind_eq_some_iff] at htoken
    obtain ⟨k, -, hk⟩ := htoken
    split at hk
    · cases hk
      exact .integer hrec
    · cases hk
  · rename_i hrec
    obtain ⟨htoken, rfl⟩ := ofToken?_eq_token_iff.mp h
    rw [Lexeme.unsignedToken?, Option.bind_eq_some_iff] at htoken
    obtain ⟨k, -, hk⟩ := htoken
    split at hk
    · cases hk
      exact .unsigned hrec
    · cases hk
  · rename_i hrec
    obtain ⟨htoken, rfl⟩ := ofToken?_eq_token_iff.mp h
    obtain ⟨f, -, rfl⟩ := Option.map_eq_some_iff.mp htoken
    exact .float hrec
  · rename_i hrec
    split at h
    · rename_i hbody
      obtain ⟨rfl, rfl⟩ := token.inj h
      exact tokenOf_quoted hrec hbody
    · cases h
  · rename_i hrec
    obtain ⟨rfl, rfl⟩ := token.inj h
    exact .word hrec
  · rename_i hrec
    obtain ⟨rfl, rfl⟩ := token.inj h
    exact .symbol hrec

/-- The scanner goes on by at least one character, and not beyond the text. -/
theorem length_head {cs : List Char} (hne : cs ≠ []) : 0 < (head cs).length ∧ (head cs).length ≤ cs.length := by
  have hpos : 0 < cs.length := List.length_pos_of_ne_nil hne
  unfold head
  split
  · exact ⟨Nat.one_pos, hpos⟩
  · rename_i hrec
    exact Lexeme.bounded_recognise cs _ _ hrec
  · rename_i hrec
    rw [length_ofToken?]
    exact Lexeme.bounded_recognise cs _ _ hrec
  · rename_i hrec
    rw [length_ofToken?]
    exact Lexeme.bounded_recognise cs _ _ hrec
  · rename_i hrec
    rw [length_ofToken?]
    exact Lexeme.bounded_recognise cs _ _ hrec
  · rename_i o n hrec
    have hbounds := Lexeme.bounded_recognise cs _ _ hrec
    split
    · rename_i t rest htoken
      have hbody := Lexeme.opening_le_of_quotedToken? hbounds.2 htoken
      exact ⟨hbounds.1.trans_le hbody, Nat.sub_le _ _⟩
    · exact hbounds
  · rename_i hrec
    exact Lexeme.bounded_recognise cs _ _ hrec
  · rename_i hrec
    exact Lexeme.bounded_recognise cs _ _ hrec

end Scan

end ExprLang
