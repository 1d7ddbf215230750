import Windowing.GammaRamp

/-!
The bits of a gamma. A 32-bit float has a sign, an exponent of eight bits and a fraction of 23, and
the two ends of the exponents are taken by zeros and subnormals and by infinities and NaNs. In these
terms a gamma is valid if it is neither a NaN nor infinite, zero or negative, and in the order of bits
the valid ones lie between zero and infinity.
-/

namespace Windowing.Binary32

open Float.Model UnpackedFloat

variable {x : Float32}

def sign (x : Float32) : Nat := x.toBits.toNat / 0x80000000

def exponent (x : Float32) : Nat := x.toBits.toNat / 0x800000 % 0x100

def fraction (x : Float32) : Nat := x.toBits.toNat % 0x800000

def NotANumber (x : Float32) : Prop := exponent x = 255 ∧ fraction x ≠ 0

def Infinite (x : Float32) : Prop := exponent x = 255 ∧ fraction x = 0

def Zero (x : Float32) : Prop := exponent x = 0 ∧ fraction x = 0

def Negative (x : Float32) : Prop := sign x = 1

instance : Decidable (NotANumber x) := inferInstanceAs (Decidable (_ ∧ _))
instance : Decidable (Infinite x) := inferInstanceAs (Decidable (_ ∧ _))
instance : Decidable (Zero x) := inferInstanceAs (Decidable (_ ∧ _))
instance : Decidable (Negative x) := inferInstanceAs (Decidable (_ = _))

theorem toNat_unpackSign (x : Float32) :
    (@unpackSign Format.binary32 x.toBits.toBitVec).toNat = sign x := by
  have bound := x.toBits.toNat_lt
  change (x.toBits.toBitVec.extractLsb 31 31).toNat = _
  rw [BitVec.extractLsb_toNat, Nat.shiftRight_eq_div_pow, UInt32.toNat_toBitVec]
  unfold sign
  omega

theorem toNat_unpackExponent (x : Float32) :
    (@unpackExponent Format.binary32 x.toBits.toBitVec).toNat = exponent x := by
  change (x.toBits.toBitVec.extractLsb 30 23).toNat = _
  rw [BitVec.extractLsb_toNat, Nat.shiftRight_eq_div_pow]
  rfl

theorem toNat_unpackMantissa (x : Float32) :
    (@unpackMantissa Format.binary32 x.toBits.toBitVec).toNat = fraction x := by
  change (x.toBits.toBitVec.extractLsb 22 0).toNat = _
  rw [BitVec.extractLsb_toNat, Nat.shiftRight_zero]
  rfl

theorem exponent_eq_zero_iff (x : Float32) :
    @unpackExponent Format.binary32 x.toBits.toBitVec = 0#8 ↔ exponent x = 0 := by
  rw [← BitVec.toNat_inj, ← toNat_unpackExponent]
  rfl

theorem exponent_eq_last_iff (x : Float32) :
    @unpackExponent Format.binary32 x.toBits.toBitVec = -1#8 ↔ exponent x = 255 := by
  rw [← BitVec.toNat_inj, ← toNat_unpackExponent]
  rfl

theorem fraction_eq_zero_iff (x : Float32) :
    @unpackMantissa Format.binary32 x.toBits.toBitVec = 0#23 ↔ fraction x = 0 := by
  rw [← BitVec.toNat_inj, ← toNat_unpackMantissa]
  rfl

theorem sign_eq_zero_iff (x : Float32) :
    Sign.ofBitVec (@unpackSign Format.binary32 x.toBits.toBitVec) = .positive ↔
      sign x = 0 := by
  have unset : @unpackSign Format.binary32 x.toBits.toBitVec = 0#1 ↔ sign x = 0 := by
    rw [← BitVec.toNat_inj, ← toNat_unpackSign]
    rfl
  simp [Sign.ofBitVec, ← unset]

/-- The number is finite and above zero. -/
def Positive (u : UnpackedFloat) : Prop :=
  ∃ mantissa exponent pos, u = .finite .positive mantissa exponent pos

theorem positive_finite_iff {s : Sign} {m : Nat} {e : Int} {pos : 0 < m} :
    Positive (.finite s m e pos) ↔ s = .positive := by
  constructor
  · rintro ⟨_, _, _, same⟩
    exact (UnpackedFloat.finite.inj same).1
  · rintro rfl
    exact ⟨m, e, pos, rfl⟩

theorem not_positive_infinity {s : Sign} : ¬Positive (.infinity s) := by
  rintro ⟨_, _, _, same⟩
  cases same

theorem not_positive_zero {s : Sign} : ¬Positive (.zero s) := by
  rintro ⟨_, _, _, same⟩
  cases same

theorem not_positive_notANumber : ¬Positive .notANumber := by
  rintro ⟨_, _, _, same⟩
  cases same

theorem positive_unpack_iff : Positive x.toModel.unpack ↔
    exponent x ≠ 255 ∧ (exponent x ≠ 0 ∨ fraction x ≠ 0) ∧ sign x = 0 := by
  change Positive (UnpackedFloat.unpack Format.binary32 x.toBits.toBitVec) ↔ _
  unfold UnpackedFloat.unpack
  extract_lets mantissa exponents power signs s
  have last_iff : exponents = -1#8 ↔ exponent x = 255 := exponent_eq_last_iff x
  have first_iff : exponents = 0#8 ↔ exponent x = 0 := exponent_eq_zero_iff x
  have fraction_iff : mantissa = 0#23 ↔ fraction x = 0 := fraction_eq_zero_iff x
  have sign_iff : s = .positive ↔ sign x = 0 := sign_eq_zero_iff x
  by_cases last : exponents = -1#8
  · have none : ¬Positive (if mantissa = 0#23 then .infinity s else .notANumber) := by
      split
      · exact not_positive_infinity
      · exact not_positive_notANumber
    rw [if_pos last]
    exact iff_of_false none fun positive => positive.1 (last_iff.1 last)
  · rw [if_neg last]
    have finite := mt last_iff.2 last
    by_cases first : exponents = 0#8
    · rw [if_pos first]
      have first := first_iff.1 first
      by_cases zero : mantissa = 0#23
      · rw [dif_pos zero]
        have zero := fraction_iff.1 zero
        exact iff_of_false not_positive_zero fun positive =>
          positive.2.1.elim (· first) (· zero)
      · rw [dif_neg zero, positive_finite_iff, sign_iff]
        have nonzero := mt fraction_iff.2 zero
        simp [finite, nonzero]
    · rw [if_neg first, positive_finite_iff, sign_iff]
      have normal := mt first_iff.2 first
      simp [finite, normal]

theorem validGamma_iff_positive :
    GammaRamp.validGamma x = true ↔ Positive x.toModel.unpack := by
  have above : 0 < x ↔ UnpackedFloat.lt (.zero .positive) x.toModel.unpack = true :=
    decide_eq_true_iff
  have finite : x.isFinite = x.toModel.unpack.isFinite := rfl
  rw [GammaRamp.validGamma, Bool.and_eq_true, decide_eq_true_iff, above, finite]
  cases x.toModel.unpack with
  | infinity s =>
    exact iff_of_false (fun both => Bool.false_ne_true both.1) not_positive_infinity
  | notANumber =>
    exact iff_of_false (fun both => Bool.false_ne_true both.1) not_positive_notANumber
  | zero s => exact iff_of_false (fun both => Bool.false_ne_true both.2) not_positive_zero
  | finite s m e pos =>
    rw [positive_finite_iff]
    cases s with
    | positive => exact iff_of_true ⟨rfl, rfl⟩ rfl
    | negative => exact iff_of_false (fun both => Bool.false_ne_true both.2) Sign.noConfusion

theorem validGamma_iff : GammaRamp.validGamma x = true ↔
    ¬(NotANumber x ∨ Infinite x ∨ Zero x ∨ Negative x) := by
  have bound := x.toBits.toNat_lt
  have bit : sign x = 0 ∨ sign x = 1 := by
    unfold sign
    omega
  rw [validGamma_iff_positive, positive_unpack_iff]
  unfold NotANumber Infinite Zero Negative
  omega

/-- The bits of the valid gammas lie between those of zero and of infinity. -/
theorem validGamma_iff_bits : GammaRamp.validGamma x = true ↔
    0 < x.toBits.toNat ∧ x.toBits.toNat < 0x7F800000 := by
  have bound := x.toBits.toNat_lt
  rw [validGamma_iff_positive, positive_unpack_iff]
  unfold exponent fraction sign
  omega

end Windowing.Binary32
