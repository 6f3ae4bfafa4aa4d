import Mathlib.Algebra.Group.Nat.Defs

/-!
# Integers as doubles

An integer of 64 bits is far from the ends of the range of doubles, so the double
nearest to it is finite.  The bounds on mantissa and exponent that are carried
through rounding are generous: none of them is met exactly.
-/

namespace FleetBridge
namespace Decimal

open Float.Model Float.Model.UnpackedFloat

/-- Whether a number is zero or finite, its mantissa within `bits` and its exponent
at most `top`. -/
def Bounded (bits : Nat) (top : Int) : UnpackedFloat → Prop
  | .zero _ => True
  | .finite _ m e _ => m < 2 ^ bits ∧ e ≤ top
  | _ => False

theorem isFinite_of_bounded {bits : Nat} {top : Int} {f : UnpackedFloat}
    (h : Bounded bits top f) : f.isFinite = true := by
  cases f with
  | zero s => rfl
  | finite s m e hm => rfl
  | infinity s => exact absurd h id
  | notANumber => exact absurd h id

theorem bounded_neg {bits : Nat} {top : Int} {f : UnpackedFloat} (h : Bounded bits top f) :
    Bounded bits top f.neg := by
  cases f with
  | zero s => trivial
  | finite s m e hm => exact h
  | infinity s => exact absurd h id
  | notANumber => exact absurd h id

theorem bounded_mono {bits : Nat} {top more : Int} {f : UnpackedFloat}
    (h : Bounded bits top f) (hle : top ≤ more) : Bounded bits more f := by
  cases f with
  | zero s => trivial
  | finite s m e hm => exact ⟨h.1, Int.le_trans h.2 hle⟩
  | infinity s => exact absurd h id
  | notANumber => exact absurd h id

/-! # Rounding -/

theorem mantissa_shiftRightOne_le (em : ExtendedMantissa) :
    em.shiftRightOne.mantissa ≤ em.mantissa :=
  Nat.div_le_self em.mantissa 2

theorem mantissa_shift_le (em : ExtendedMantissa) (k : Nat) :
    (em >>> k).mantissa ≤ em.mantissa := by
  induction k with
  | zero => exact Nat.le_refl _
  | succ k ih => exact Nat.le_trans (mantissa_shiftRightOne_le (em >>> k)) ih

theorem roundedMantissa_le (em : ExtendedMantissa) : em.roundedMantissa ≤ em.mantissa + 1 := by
  rcases em with ⟨m, roundBit, stickyBit⟩
  cases roundBit <;> cases stickyBit <;>
    simp only [ExtendedMantissa.roundedMantissa, ExtendedMantissa.accuracy,
      Accuracy.roundToNearestEven] <;> omega

theorem mantissa_ofMantissaAndAccuracy (m : Nat) (a : Accuracy) :
    (ExtendedMantissa.ofMantissaAndAccuracy m a).mantissa = m := by
  cases a with
  | exact => rfl
  | inexact o => cases o <;> rfl

theorem log2_lt_of_lt {m bits : Nat} (hbits : 0 < bits) (h : m < 2 ^ bits) : m.log2 < bits := by
  rcases Nat.eq_zero_or_pos m with hzero | hpos
  · rw [hzero, Nat.log2_zero]
    exact hbits
  · exact (Nat.log2_lt (Nat.ne_of_gt hpos)).mpr h

theorem shiftToTargetExponent_le (m : Nat) (e : Int) (a : Accuracy) :
    (shiftToTargetExponent Format.binary64 m e a).1.mantissa ≤ m ∧
      (shiftToTargetExponent Format.binary64 m e a).2 ≤ max e (max (m.log2 + e - 52) (-1074)) := by
  have htarget : Format.binary64.targetExponent (totalExponent m e) =
      max (m.log2 + 1 + e - 53) (-1074) := rfl
  constructor
  · have hshift := mantissa_shift_le (ExtendedMantissa.ofMantissaAndAccuracy m a)
    rw [mantissa_ofMantissaAndAccuracy] at hshift
    exact hshift _
  · simp only [shiftToTargetExponent, shiftToExponent, htarget]
    omega

theorem bounded_roundWithAccuracy {m : Nat} {e top : Int} (s : Sign) (a : Accuracy)
    (hm : m < 2 ^ 128) (he : e ≤ top) (htop : 0 ≤ top) :
    Bounded 129 (top + 151) (roundWithAccuracy Format.binary64 s m e a) := by
  have hfirst := shiftToTargetExponent_le m e a
  have hlog := log2_lt_of_lt (by decide) hm
  rw [roundWithAccuracy]
  generalize shiftToTargetExponent Format.binary64 m e a = first at hfirst ⊢
  obtain ⟨em, e₁⟩ := first
  obtain ⟨hem, he₁⟩ : em.mantissa ≤ m ∧ e₁ ≤ max e (max (m.log2 + e - 52) (-1074)) := hfirst
  have hrounded := roundedMantissa_le em
  have hsecond := shiftToTargetExponent_le em.roundedMantissa e₁ .exact
  have hlogRounded : em.roundedMantissa.log2 < 129 := log2_lt_of_lt (by decide) (by omega)
  dsimp only
  by_cases hzero :
      (shiftToTargetExponent Format.binary64 em.roundedMantissa e₁ .exact).1.mantissa = 0
  · rw [dif_pos hzero]
    trivial
  · rw [dif_neg hzero]
    exact ⟨by omega, by omega⟩

theorem bounded_round {m : Nat} (s : Sign) (hm : m < 2 ^ 64) :
    Bounded 129 151 (UnpackedFloat.round Format.binary64 s m 0) := by
  have htarget : Format.binary64.targetExponent (totalExponent m 0) =
      max ((m.log2 : Int) + 1 + 0 - 53) (-1074) := rfl
  have hlow : -52 ≤ Format.binary64.targetExponent (totalExponent m 0) := by
    rw [htarget]
    omega
  simp only [UnpackedFloat.round, decreaseExponent]
  generalize Format.binary64.targetExponent (totalExponent m 0) = target at hlow
  have hshift : ((0 : Int) - target).toNat ≤ 52 := by omega
  have hmantissa : m <<< ((0 : Int) - target).toNat < 2 ^ 128 := by
    rw [Nat.shiftLeft_eq]
    calc m * 2 ^ ((0 : Int) - target).toNat
        ≤ m * 2 ^ 52 := Nat.mul_le_mul_left m (Nat.pow_le_pow_right (by decide) hshift)
      _ < 2 ^ 128 := by omega
  exact bounded_roundWithAccuracy s .exact hmantissa (by omega) (Int.le_refl 0)

theorem bounded_ofNat {n : Nat} (hn : n < 2 ^ 64) :
    Bounded 129 151 (UnpackedFloat.ofNat Format.binary64 n) := by
  simp only [UnpackedFloat.ofNat, UnpackedFloat.ofInt, UnpackedFloat.normalize]
  split
  · rename_i hlt
    rw [Int.compare_eq_lt] at hlt
    omega
  · trivial
  · rw [Int.toNat_natCast]
    exact bounded_round .positive hn

/-! # Bits -/

theorem bounded_unpack {b : BitVec Format.binary64.numBits} {top : Int} (hlow : 0 ≤ top)
    (hhigh : top ≤ 900) (hexponent : ((unpackExponent b).toNat : Int) ≤ top + 1075) :
    Bounded 53 top (UnpackedFloat.unpack Format.binary64 b) := by
  have hordinary : unpackExponent b ≠ (-1#11) := by
    intro hmost
    have hfield : (unpackExponent b).toNat = 2047 := by
      rw [hmost]
      rfl
    omega
  have hbias : ((Format.binary64.exponentBias : Nat) : Int) = 1023 := rfl
  delta UnpackedFloat.unpack
  dsimp only
  rw [if_neg hordinary]
  by_cases hleast : unpackExponent b = 0#11
  · rw [if_pos hleast]
    by_cases hzero : unpackMantissa b = 0#52
    · rw [dif_pos hzero]
      trivial
    · have hmantissa := (unpackMantissa b).isLt
      rw [dif_neg hzero]
      refine ⟨Nat.lt_of_lt_of_le hmantissa (by decide), ?_⟩
      rw [hleast, BitVec.toNat_ofNat]
      omega
  · rw [if_neg hleast]
    exact ⟨BitVec.isLt _, by omega⟩

theorem unpackExponent_pack_le {bits : Nat} {top : Int} {f : UnpackedFloat}
    (h : Bounded bits top f) (hlow : 0 ≤ top) (hhigh : top ≤ 900) :
    ((unpackExponent (UnpackedFloat.pack Format.binary64 f)).toNat : Int) ≤ top + 1075 := by
  cases f with
  | infinity s => exact absurd h id
  | notANumber => exact absurd h id
  | zero s =>
      delta UnpackedFloat.pack packedZero
      dsimp only
      rw [unpackExponent_packComponents]
      exact Int.le_trans (Int.le_refl 0) (by omega)
  | finite s m e hm =>
      obtain ⟨_, he⟩ := h
      have hbias : ((Format.binary64.exponentBias : Nat) : Int) = 1023 := rfl
      delta UnpackedFloat.pack
      dsimp only
      split
      case isTrue hlarge =>
        exact absurd hlarge (by omega)
      case isFalse =>
        split
        · rw [unpackExponent_packComponents, BitVec.toNat_ofNat]
          omega
        · rw [unpackExponent_packComponents, BitVec.toNat_ofNat]
          omega

/-- A packed number is as large as it was, unless it was too small. -/
theorem bounded_unpack_pack {bits : Nat} {top : Int} {f : UnpackedFloat}
    (h : Bounded bits top f) (hlow : 0 ≤ top) (hhigh : top ≤ 900) :
    Bounded 53 top (Float.Model.pack f).unpack :=
  bounded_unpack hlow hhigh (unpackExponent_pack_le h hlow hhigh)

/-! # Doubles -/

theorem bounded_toFloat {n : UInt64} : Bounded 53 151 n.toFloat.toModel.unpack :=
  bounded_unpack_pack (bounded_ofNat n.toNat_lt) (by decide) (by decide)

theorem bounded_mul_one {f : UnpackedFloat} (h : Bounded 53 151 f) :
    Bounded 129 302
      (UnpackedFloat.mul Format.binary64 f
        (Float.ofBits 0x3FF0000000000000).toModel.unpack) := by
  have hone : ∃ h, (Float.ofBits 0x3FF0000000000000).toModel.unpack =
      .finite .positive (2 ^ 52) (-52) h := ⟨by decide, by rfl⟩
  obtain ⟨hpos, hone⟩ := hone
  rw [hone]
  cases f with
  | zero s => trivial
  | finite s m e hm =>
      obtain ⟨hmantissa, he⟩ := h
      have hproduct : m * 2 ^ 52 < 2 ^ 128 := by omega
      have hexponent : e + -52 ≤ 151 := by omega
      exact bounded_roundWithAccuracy (s * .positive) .exact hproduct hexponent (by decide)
  | infinity s => exact absurd h id
  | notANumber => exact absurd h id

theorem bounded_ofScientific {m : Nat} (hm : m < 2 ^ 65) :
    Bounded 129 151 (UnpackedFloat.ofScientific Format.binary64 m 0) := by
  have hproduct : m <<< 53 * 10 ^ 0 < 2 ^ 128 := by
    rw [Nat.shiftLeft_eq]
    omega
  rcases Nat.eq_zero_or_pos m with hzero | hpos
  · rw [hzero]
    trivial
  · have hscale : UnpackedFloat.ofScientific Format.binary64 m 0 =
        roundWithAccuracy Format.binary64 (.positive * .positive) (m <<< 53 * 10 ^ 0)
          (-53 + 0) .exact := by
      have hlarge : ¬ ((0 : Int) > 2 ^ Format.binary64.exponentBits) := by decide
      have hsmall : ¬ ((0 : Int) < -((2 ^ Format.binary64.exponentBits : Int) + m.log2)) := by
        have hpower : (2 ^ Format.binary64.exponentBits : Int) = 2048 := rfl
        omega
      rw [UnpackedFloat.ofScientific, dif_neg (Nat.ne_of_gt hpos), if_neg hlarge, if_neg hsmall,
        if_pos (Int.le_refl 0)]
      rfl
    have hexponent : (-53 + 0 : Int) ≤ 0 := by decide
    rw [hscale]
    generalize m <<< 53 * 10 ^ 0 = k at hproduct
    have hround := bounded_roundWithAccuracy (.positive * .positive) .exact hproduct hexponent
      (Int.le_refl 0)
    exact hround

theorem bounded_ofNat_model {n : Nat} (hn : n < 2 ^ 65) :
    Bounded 53 302 (Float.ofNat n).toModel.unpack := by
  have hmodel : Float.ofNat n = Float.ofScientific n false 0 := rfl
  rw [hmodel, Float.ofScientific]
  split
  case isTrue hsmall =>
    have hproduct := bounded_mul_one (bounded_toFloat (n := n.toUInt64))
    exact bounded_unpack_pack hproduct (by decide) (by decide)
  case isFalse =>
    have hscale := bounded_unpack_pack (bounded_ofScientific hn) (by decide) (by decide)
    exact bounded_mono hscale (by decide)

theorem isFinite_ofInt {i : Int} (h : i.natAbs < 2 ^ 65) : (Float.ofInt i).isFinite = true := by
  cases i with
  | ofNat n => exact isFinite_of_bounded (bounded_ofNat_model h)
  | negSucc n =>
      have hneg := bounded_neg (bounded_ofNat_model h)
      exact isFinite_of_bounded (bounded_unpack_pack hneg (by decide) (by decide))

end Decimal
end FleetBridge
