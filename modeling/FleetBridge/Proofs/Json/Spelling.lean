import FleetBridge.Json.Literal
import FleetBridge.Proofs.Decimal.Padding
import FleetBridge.Proofs.Decimal.Shortest

/-!
# What the spelling of a double is worth

A spelling stands for one rational number, whichever reader it meets.  The layout moves the
point and the exponent about but not the number, so the spelling of a double is rounded to
that double.
-/

namespace FleetBridge
namespace Json
namespace Literal

open Decimal

def magnitude (l : Literal) : ℚ :=
  (l.whole + value l.fraction / 10 ^ l.fraction.length) * 10 ^ l.exponent.getD 0

/-- A spelling that a reader takes for a double if it rounds to the nearest one, and to an even
mantissa where two are as near. -/
def Spells (l : Literal) (x : Float) : Prop :=
  ∃ s b, Binary.unpacked? x.toModel.unpack = some (s, Binary.value b) ∧ b.IsDouble ∧
    (l.negative = true ↔ s = .negative) ∧ b.IsNearest l.magnitude

theorem value_take_add_value_drop (ds : List (Fin 10)) (k : Nat) :
    (value (ds.take k) + value (ds.drop k) / 10 ^ (ds.drop k).length : ℚ) =
      value ds / 10 ^ (ds.drop k).length := by
  have hpos : (10 : ℚ) ^ (ds.drop k).length ≠ 0 := by positivity
  nth_rewrite 4 [← List.take_append_drop k ds]
  rw [value_append, Nat.cast_add, Nat.cast_mul, Nat.cast_pow, Nat.cast_ofNat, add_div,
    mul_div_cancel_right₀ _ hpos]

theorem div_pow_mul_zpow (n : ℚ) {k : Nat} {e f : Int} (h : f = e + k) :
    n / 10 ^ k * 10 ^ f = n * 10 ^ e := by
  have hpos : (10 : ℚ) ^ k ≠ 0 := by positivity
  rw [h, zpow_add₀ (by norm_num), zpow_natCast, mul_comm ((10 : ℚ) ^ e), ← mul_assoc,
    div_mul_cancel₀ _ hpos]

theorem magnitude_ofScientific (negative : Bool) (s : Scientific) :
    (ofScientific negative s).magnitude = s.value := by
  have hvalue : value (digits s.significand) = s.significand := value_digits _
  have hlength : 0 < (digits s.significand).length := List.length_pos_iff.mpr (digits_ne_nil _)
  have hzero : value [zero] = 0 := rfl
  unfold ofScientific magnitude Scientific.value
  dsimp only
  split
  case isTrue h =>
    rw [beq_iff_eq.mp h, hzero]
    simp
  case isFalse =>
    split
    case isTrue h =>
      simp only [Bool.and_eq_true, decide_eq_true_eq] at h
      rw [hzero, Option.getD_none, Nat.pow_eq, Nat.cast_mul, Nat.cast_pow, ← zpow_natCast,
        Int.toNat_of_nonneg h.1]
      simp
    case isFalse hbroken =>
      simp only [Bool.and_eq_true, decide_eq_true_eq] at hbroken
      split
      case isTrue h =>
        simp only [Bool.and_eq_true, decide_eq_true_eq] at h
        rw [value_take_add_value_drop, hvalue, Option.getD_none]
        exact div_pow_mul_zpow _ (by rw [List.length_drop]; omega)
      case isFalse =>
        split
        case isTrue h =>
          simp only [Bool.and_eq_true, decide_eq_true_eq] at h
          rw [value_replicate_zero_append, hvalue, Option.getD_none, Nat.cast_zero, zero_add]
          exact div_pow_mul_zpow _
            (by rw [List.length_append, List.length_replicate]; omega)
        case isFalse =>
          rw [value_take_add_value_drop, hvalue, Option.getD_some]
          exact div_pow_mul_zpow _ (by rw [List.length_drop]; omega)

theorem negative_ofScientific (negative : Bool) (s : Scientific) :
    (ofScientific negative s).negative = negative := by
  unfold ofScientific
  dsimp only
  repeat' split
  all_goals rfl

theorem spells_ofFloat {x : Float} (h : x.isFinite = true) : (ofFloat x).Spells x := by
  obtain ⟨s, r, hunpacked⟩ := Binary.exists_unpacked? h
  obtain ⟨hnegative, hvalue⟩ := Binary.isNegative_and_value_ofBits hunpacked
  rw [← hvalue] at hunpacked
  refine ⟨s, _, hunpacked, Binary.isDouble_ofBits x.toBits, ?_, ?_⟩
  · rw [ofFloat, negative_ofScientific]
    exact hnegative
  · rw [ofFloat, magnitude_ofScientific]
    exact isNearest_shortest .even x

end Literal
end Json
end FleetBridge
