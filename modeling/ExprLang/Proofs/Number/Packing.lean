import ExprLang.Proofs.Number.Bits
import ExprLang.Proofs.Number.Rounding

/-!
# Doubles from their parts

The bits of a finite double are those of its sign, its mantissa and its exponent (`signedBits_of_ofBits`,
`ofBits_of_signedBits`), and the operations on doubles put them together again (`pack_unpack_of_finite`). So a double
that is made from the magnitude bits of another is this other one, up to the sign (`withSign_magnitudeBits`,
`neg_withSign_magnitudeBits`), and negation changes nothing but the sign (`ofFloat_neg`).
-/

namespace ExprLang.Binary64

open Float.Model UnpackedFloat

variable {m : Nat} {e : Int} {f : Float} {u : UInt64} {negative : Bool}

/-- The bits of the double with the given sign and magnitude bits. -/
def signedBits (negative : Bool) (magnitude : Nat) : Nat := (if negative then signWeight else 0) + magnitude

private theorem signedBits_false (n : Nat) : signedBits false n = n := Nat.zero_add n

/-! ### Bits and parts -/

private theorem exponentWeight_eq : exponentWeight = 2 ^ 52 := rfl

private theorem signWeight_eq : signWeight = 2 ^ 63 := rfl

theorem signedBits_of_ofBits (h : ofBits u = .finite negative m e) :
    IsMagnitude m e ∧ u.toNat = signedBits negative (magnitudeBits m e) := by
  have hu := u.toNat_lt
  have hsign : (if decide (signWeight ≤ u.toNat) = true then signWeight else 0) = u.toNat / 2 ^ 63 * 2 ^ 63 := by
    rw [signWeight_eq]
    by_cases hs : 2 ^ 63 ≤ u.toNat
    · rw [if_pos (decide_eq_true hs)]
      omega
    · rw [if_neg (by simpa using hs)]
      omega
  unfold ofBits at h
  unfold IsMagnitude signedBits magnitudeBits
  rw [exponentWeight_eq] at *
  dsimp only at h
  split at h
  · split at h <;> nomatch h
  · -- a subnormal number and one with an implied bit: the exponent is a carry away from the mantissa in both
    split at h
    · injection h with h₁ h₂ h₃
      subst h₁ h₂ h₃
      rw [hsign]
      omega
    · injection h with h₁ h₂ h₃
      subst h₁ h₂ h₃
      rw [hsign]
      omega

theorem ofBits_of_signedBits (h : IsMagnitude m e) (hu : u.toNat = signedBits negative (magnitudeBits m e)) :
    ofBits u = .finite negative m e := by
  obtain ⟨hmax, hmin, hmax', hcanonical⟩ := h
  unfold signedBits magnitudeBits at hu
  unfold ofBits
  rw [exponentWeight_eq, signWeight_eq] at *
  have hsign : decide (2 ^ 63 ≤ u.toNat) = negative := by
    cases negative with
    | false => simp at hu; simp; omega
    | true => simp at hu; simp; omega
  have hmod : u.toNat % 2 ^ 63 = (e + 1074).toNat * 2 ^ 52 + m := by
    cases negative with
    | false => simp at hu; omega
    | true => simp at hu; omega
  dsimp only
  rw [hsign, if_neg (by omega)]
  by_cases hlead : 2 ^ 52 ≤ m
  · rw [if_neg (by omega)]
    congr 1
    · omega
    · omega
  · rw [if_pos (by omega)]
    congr 1
    · omega
    · omega

/-! ### Doubles from bits -/

/-- The bits of a finite double are kept when they are taken apart and put together again. -/
theorem pack_unpack_of_finite (h : ofBits u = .finite negative m e) :
    UnpackedFloat.pack Format.binary64 (UnpackedFloat.unpack Format.binary64 u.toBitVec) = u.toBitVec := by
  rw [pack_unpack, if_neg]
  intro hnan
  have hunpack : UnpackedFloat.unpack Format.binary64 u.toBitVec = .notANumber := by
    simp only [isNaNBits, decide_eq_true_eq] at hnan
    simp [UnpackedFloat.unpack, hnan]
  rw [unpack_toBitVec, h, unpacked] at hunpack
  by_cases hm : 0 < m
  · rw [dif_pos hm] at hunpack
    cases hunpack
  · rw [dif_neg hm] at hunpack
    cases hunpack

private theorem exists_ofBits (h : IsMagnitude m e) (s : Bool) :
    ∃ u : UInt64, u.toNat = signedBits s (magnitudeBits m e) ∧ ofBits u = .finite s m e := by
  have hlt : signedBits s (magnitudeBits m e) < 2 ^ 64 := by
    obtain ⟨hmax, _, _, _⟩ := h
    rw [signedBits, magnitudeBits, exponentWeight_eq, signWeight_eq] at *
    split <;> omega
  have htoNat := UInt64.toNat_ofNat_of_lt' hlt
  exact ⟨_, htoNat, ofBits_of_signedBits h htoNat⟩

/-- A double has the parts that it is packed from. -/
theorem ofFloat_of_pack (h : IsMagnitude m e)
    (hf : f.toBits.toBitVec = UnpackedFloat.pack Format.binary64 (Binary64.finite s m e).unpacked) :
    ofFloat f = .finite s m e := by
  obtain ⟨u, -, hu⟩ := exists_ofBits h s
  rw [← hu, ← unpack_toBitVec, pack_unpack_of_finite hu, UInt64.toBitVec_inj] at hf
  rw [ofFloat_eq, hf, hu]

theorem ofFloat_withSign (h : IsMagnitude m e) (s : Bool) :
    ofFloat (withSign s (magnitudeBits m e)) = .finite s m e := by
  obtain ⟨u, htoNat, hu⟩ := exists_ofBits h s
  have hnat : (if s = true then signWeight + magnitudeBits m e else magnitudeBits m e) = u.toNat := by
    rw [htoNat, signedBits]
    cases s <;> simp
  apply ofFloat_of_pack h
  rw [withSign, hnat, UInt64.ofNat_toNat, ← hu, ← unpack_toBitVec]
  rfl

/-- A double without sign is made again from its magnitude bits. -/
theorem withSign_magnitudeBits (h : ofFloat f = .finite false m e) : withSign false (magnitudeBits m e) = f := by
  obtain ⟨_, hbits⟩ := signedBits_of_ofBits h
  rw [signedBits_false] at hbits
  rw [withSign, if_neg (by simp), ← hbits, UInt64.ofNat_toNat, Float.ofBits_toBits]

/-- A double made from magnitude bits has no sign, and is a number up to the bits of infinity. -/
theorem ofFloat_withSign_of_le {n : Nat} (hn : n ≤ infinityBits) :
    ofFloat (withSign false n) = .infinite false ∨ ∃ m e, ofFloat (withSign false n) = .finite false m e := by
  have hweight : infinityBits = 2047 * 2 ^ 52 := rfl
  rcases hn.eq_or_lt with rfl | hlt
  · exact .inl (by decide +kernel)
  · have htoNat : (UInt64.ofNat n).toNat = n := UInt64.toNat_ofNat_of_lt' (by
      show n < 2 ^ 64
      omega)
    have hsign : decide (signWeight ≤ n) = false := decide_eq_false (by rw [signWeight_eq]; omega)
    obtain ⟨m, e, h⟩ : ∃ m e, ofBits (UInt64.ofNat n) = .finite false m e := by
      unfold ofBits
      rw [htoNat, hsign, exponentWeight_eq]
      dsimp only
      rw [if_neg (by omega)]
      split
      · exact ⟨_, _, rfl⟩
      · exact ⟨_, _, rfl⟩
    obtain ⟨hmagnitude, hbits⟩ := signedBits_of_ofBits h
    rw [htoNat, signedBits_false] at hbits
    rw [hbits]
    exact .inr ⟨m, e, ofFloat_withSign hmagnitude false⟩

/-! ### Negation -/

/-- What the negation of a double stands for. -/
def neg : Binary64 → Binary64
  | .nan => .nan
  | .infinite negative => .infinite !negative
  | .finite negative m e => .finite (!negative) m e

private theorem unpacked_neg (x : Binary64) : x.neg.unpacked = UnpackedFloat.neg x.unpacked := by
  cases x with
  | nan => rfl
  | infinite s => cases s <;> rfl
  | finite s m e =>
    rw [neg, unpacked, unpacked]
    split
    · cases s <;> rfl
    · cases s <;> rfl

theorem ofFloat_neg (f : Float) : ofFloat (-f) = (ofFloat f).neg := by
  have hbits : (-f).toBits.toBitVec = UnpackedFloat.pack Format.binary64 (ofFloat f).neg.unpacked := by
    rw [unpacked_neg, ← unpack_toModel]
    rfl
  cases h : ofFloat f with
  | nan =>
    rw [h] at hbits
    rw [ofFloat_eq, ← UInt64.ofBitVec_toBitVec (-f).toBits, hbits]
    decide +kernel
  | infinite s =>
    rw [h] at hbits
    rw [ofFloat_eq, ← UInt64.ofBitVec_toBitVec (-f).toBits, hbits]
    cases s with
    | false => decide +kernel
    | true => decide +kernel
  | finite s m e =>
    rw [h] at hbits
    exact ofFloat_of_pack (signedBits_of_ofBits h).1 hbits

/-- A double with a sign is the negation of the one made from its magnitude bits. -/
theorem neg_withSign_magnitudeBits (h : ofFloat f = .finite true m e) : -withSign false (magnitudeBits m e) = f := by
  obtain ⟨hmagnitude, _⟩ := signedBits_of_ofBits h
  have hneg : UnpackedFloat.neg (withSign false (magnitudeBits m e)).toModel.unpack = (ofFloat f).unpacked := by
    rw [unpack_toModel, ofFloat_withSign hmagnitude, ← unpacked_neg, h]
    rfl
  -- what is packed for the negation are the parts of `f`
  apply Float.toBits_inj.mp
  apply UInt64.toBitVec_inj.mp
  show UnpackedFloat.pack Format.binary64
    (UnpackedFloat.neg (withSign false (magnitudeBits m e)).toModel.unpack) = f.toBits.toBitVec
  rw [hneg, ofFloat_eq, ← unpack_toBitVec, pack_unpack_of_finite h]

end ExprLang.Binary64
