import Mathlib
import ExprLang.Number.Binary64

/-!
# The bits of doubles

`Binary64.ofFloat` reads the sign, the exponent and the fraction of a double as the operations on doubles do
(`unpack_toModel`), so both agree on which doubles are not a number (`isNaN_iff`) and which are finite
(`isFinite_iff`).
-/

namespace ExprLang.Binary64
open Float.Model UnpackedFloat

/-! ### Fields -/

/-- The sign of a double as its operations have it. -/
def unpackedSign (negative : Bool) : Sign := if negative then .negative else .positive

/-- What a double stands for, as its operations have it. -/
def unpacked : Binary64 → UnpackedFloat
  | .nan => .notANumber
  | .infinite negative => .infinity (unpackedSign negative)
  | .finite negative m e =>
    if h : 0 < m then .finite (unpackedSign negative) m e h else .zero (unpackedSign negative)

private theorem toNat_fraction (u : UInt64) :
    (@unpackMantissa Format.binary64 u.toBitVec).toNat = u.toNat % exponentWeight := by
  simp [unpackMantissa, BitVec.extractLsb, BitVec.extractLsb'_toNat, exponentWeight]

private theorem toNat_exponent (u : UInt64) :
    (@unpackExponent Format.binary64 u.toBitVec).toNat = u.toNat / exponentWeight % 2048 := by
  simp [unpackExponent, BitVec.extractLsb, BitVec.extractLsb'_toNat, Nat.shiftRight_eq_div_pow, exponentWeight]

private theorem sign_eq (u : UInt64) :
    Sign.ofBitVec (@unpackSign Format.binary64 u.toBitVec) = unpackedSign (signWeight ≤ u.toNat) := by
  have hu := u.toNat_lt
  have hs : (@unpackSign Format.binary64 u.toBitVec).toNat = u.toNat / signWeight := by
    have : u.toNat / 9223372036854775808 < 2 := by omega
    simpa [unpackSign, BitVec.extractLsb, BitVec.extractLsb'_toNat, Nat.shiftRight_eq_div_pow, signWeight]
  have hw : signWeight = 9223372036854775808 := rfl
  have h₀ : @unpackSign Format.binary64 u.toBitVec = 0#1 ↔ ¬ signWeight ≤ u.toNat := by
    rw [← BitVec.toNat_inj, hs, hw]
    show _ = 0 ↔ _
    omega
  unfold Sign.ofBitVec unpackedSign
  by_cases h : signWeight ≤ u.toNat <;> simp [h, h₀]

/-- What the bits of a double stand for. -/
def ofBits (u : UInt64) : Binary64 :=
  let exponent : Nat := u.toNat / exponentWeight % 2048
  let fraction : Nat := u.toNat % exponentWeight
  if exponent = 2047 then
    if fraction = 0 then .infinite (signWeight ≤ u.toNat) else .nan
  else if exponent = 0 then .finite (signWeight ≤ u.toNat) fraction (-1074)
  else .finite (signWeight ≤ u.toNat) (exponentWeight + fraction) ((exponent : Int) - 1075)

theorem ofFloat_eq (f : Float) : ofFloat f = ofBits f.toBits := rfl

theorem unpack_toBitVec (u : UInt64) : UnpackedFloat.unpack Format.binary64 u.toBitVec = (ofBits u).unpacked := by
  have hf := toNat_fraction u
  have he := toNat_exponent u
  have hs := sign_eq u
  have hf₀ : @unpackMantissa Format.binary64 u.toBitVec = 0#_ ↔ u.toNat % exponentWeight = 0 := by
    rw [← BitVec.toNat_inj, hf]; rfl
  have he₀ : @unpackExponent Format.binary64 u.toBitVec = 0#_ ↔ u.toNat / exponentWeight % 2048 = 0 := by
    rw [← BitVec.toNat_inj, he]; rfl
  have he₁ : @unpackExponent Format.binary64 u.toBitVec = -1#_ ↔ u.toNat / exponentWeight % 2048 = 2047 := by
    rw [← BitVec.toNat_inj, he]; rfl
  unfold UnpackedFloat.unpack ofBits
  dsimp only
  rw [hs]
  by_cases h₁ : u.toNat / exponentWeight % 2048 = 2047
  · -- infinities and not-a-number
    rw [if_pos (he₁.mpr h₁), if_pos h₁]
    by_cases h₂ : u.toNat % exponentWeight = 0
    · rw [if_pos (hf₀.mpr h₂), if_pos h₂, unpacked]
    · rw [if_neg (mt hf₀.mp h₂), if_neg h₂, unpacked]
  · rw [if_neg (mt he₁.mp h₁), if_neg h₁]
    by_cases h₂ : u.toNat / exponentWeight % 2048 = 0
    · -- zeros and subnormal numbers, whose leading bit is not implied
      rw [if_pos (he₀.mpr h₂), if_pos h₂, unpacked]
      by_cases h₃ : u.toNat % exponentWeight = 0
      · rw [dif_pos (hf₀.mpr h₃), dif_neg (by omega)]
      · rw [dif_neg (mt hf₀.mp h₃), dif_pos (by omega)]
        simp only [hf, he, h₂]
        rfl
    · rw [if_neg (mt he₀.mp h₂), if_neg h₂, unpacked]
      rw [dif_pos (Nat.add_pos_left (by decide) _)]
      congr 1
      · have hlt : u.toNat % exponentWeight < 2 ^ 52 := Nat.mod_lt _ (by decide)
        rw [BitVec.toNat_append, hf, ← Nat.shiftLeft_add_eq_or_of_lt hlt]
        rfl
      · rw [he]
        rfl

theorem unpack_toModel (f : Float) : f.toModel.unpack = (ofFloat f).unpacked := unpack_toBitVec f.toBits

theorem signBit_of_finite {f : Float} {negative : Bool} {m : Nat} {e : Int} (h : ofFloat f = .finite negative m e) :
    signBit f = negative := by
  unfold ofFloat at h
  dsimp only at h
  split at h
  · split at h <;> cases h
  · split at h <;> (cases h; rfl)

theorem signBit_of_infinite {f : Float} {negative : Bool} (h : ofFloat f = .infinite negative) :
    signBit f = negative := by
  unfold ofFloat at h
  dsimp only at h
  split at h
  · split at h <;> cases h
    rfl
  · split at h <;> cases h

theorem isNaN_iff (f : Float) : f.isNaN = true ↔ ofFloat f = .nan := by
  show f.toModel.unpack.isNaN = true ↔ _
  rw [unpack_toModel]
  cases ofFloat f with
  | nan | infinite => simp [unpacked, UnpackedFloat.isNaN]
  | finite negative m e => by_cases h : 0 < m <;> simp [unpacked, UnpackedFloat.isNaN, h]

theorem isFinite_iff (f : Float) : f.isFinite = true ↔ ∃ negative m e, ofFloat f = .finite negative m e := by
  show f.toModel.unpack.isFinite = true ↔ _
  rw [unpack_toModel]
  cases ofFloat f with
  | nan | infinite => simp [unpacked, UnpackedFloat.isFinite]
  | finite negative m e => by_cases h : 0 < m <;> simp [unpacked, UnpackedFloat.isFinite, h]

theorem isInf_iff (f : Float) : f.isInf = true ↔ ∃ negative, ofFloat f = .infinite negative := by
  show f.toModel.unpack.isInf = true ↔ _
  rw [unpack_toModel]
  cases ofFloat f with
  | nan | infinite => simp [unpacked, UnpackedFloat.isInf]
  | finite negative m e => by_cases h : 0 < m <;> simp [unpacked, UnpackedFloat.isInf, h]

end ExprLang.Binary64
