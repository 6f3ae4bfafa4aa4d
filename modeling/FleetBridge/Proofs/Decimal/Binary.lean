import FleetBridge.Decimal.Shortest
import Mathlib.Algebra.Order.Field.Power
import Mathlib.Data.Rat.Cast.Order
import Mathlib.Tactic.Linarith
import Mathlib.Tactic.NormNum
import Mathlib.Tactic.Positivity
import Mathlib.Tactic.Ring

/-!
# The magnitudes of doubles

A double is a mantissa of 53 bits times a power of two.  The next ones are as far away as the
exponent tells, but for the one below a power of two, which is only half as far.  So a number
that lies within half of that is rounded to this double.
-/

namespace FleetBridge
namespace Decimal
namespace Binary

def value (b : Binary) : ℚ :=
  b.mantissa * 2 ^ b.exponent

/-!
# Neighbours
-/

/-- The magnitudes of doubles; the exponents have no upper end, so that numbers beyond the
greatest double are rounded to what would be the next one. -/
structure IsDouble (b : Binary) : Prop where
  mantissa_lt : b.mantissa < 2 ^ 53
  le_exponent : -1074 ≤ b.exponent
  normal : b.exponent ≠ -1074 → 2 ^ 52 ≤ b.mantissa
  atBoundary_iff : b.atBoundary = true ↔ b.mantissa = 2 ^ 52 ∧ b.exponent ≠ -1074

theorem isDouble_ofBits (bits : UInt64) : (ofBits bits).IsDouble := by
  unfold ofBits
  simp only [Nat.pow_eq]
  have hfraction : bits.toNat % 2 ^ 52 < 2 ^ 52 := Nat.mod_lt _ (by decide)
  generalize bits.toNat % 2 ^ 52 = fraction at *
  generalize bits.toNat / 2 ^ 52 % 2 ^ 11 = field
  split
  case isTrue =>
    refine ⟨by dsimp only; omega, le_refl _, fun h => absurd rfl h, ?_⟩
    simp
  case isFalse hfield =>
    have hpos : field ≠ 0 := by simpa using hfield
    refine ⟨by dsimp only; omega, by dsimp only [Int.ofNat_eq_natCast]; omega,
      fun _ => Nat.le_add_left _ _, ?_⟩
    simp only [Bool.and_eq_true, beq_iff_eq, bne_iff_ne, Int.ofNat_eq_natCast]
    omega

def gapBelow (b : Binary) : ℚ :=
  if b.atBoundary then 2 ^ b.exponent / 2 else 2 ^ b.exponent

variable {b c : Binary} {q : ℚ}

theorem gapBelow_le (b : Binary) : b.gapBelow ≤ 2 ^ b.exponent := by
  have hpos : (0 : ℚ) < 2 ^ b.exponent := by positivity
  unfold gapBelow
  split <;> linarith

theorem IsDouble.value_le_gapBelow (hb : b.IsDouble) : b.value ≤ 2 ^ 53 * b.gapBelow := by
  have hpos : (0 : ℚ) < 2 ^ b.exponent := by positivity
  unfold gapBelow
  rw [value]
  split
  case isTrue hboundary =>
    have hmantissa : (b.mantissa : ℚ) = 2 ^ 52 := by
      exact_mod_cast (hb.atBoundary_iff.mp hboundary).1
    rw [hmantissa]
    linarith
  case isFalse =>
    have hmantissa : (b.mantissa : ℚ) ≤ 2 ^ 53 := by exact_mod_cast hb.mantissa_lt.le
    exact mul_le_mul_of_nonneg_right hmantissa hpos.le

theorem exists_value_eq {e : Int} (h : e ≤ c.exponent) : ∃ n : Nat, c.value = n * 2 ^ e := by
  refine ⟨c.mantissa * 2 ^ (c.exponent - e).toNat, ?_⟩
  have hexponent : c.exponent = ((c.exponent - e).toNat : Int) + e := by omega
  rw [value]
  nth_rewrite 1 [hexponent]
  rw [zpow_add₀ (by norm_num), zpow_natCast]
  push_cast
  ring

/-- A double with a smaller exponent is below all normal ones of the greater exponent. -/
theorem IsDouble.value_le_of_exponent_lt (hc : c.IsDouble) {e : Int} (h : c.exponent < e) :
    c.value ≤ (2 ^ 53 - 1) * (2 ^ e / 2) := by
  have hmantissa : (c.mantissa : ℚ) ≤ 2 ^ 53 - 1 := by
    have hlt : c.mantissa + 1 ≤ 2 ^ 53 := hc.mantissa_lt
    rw [le_sub_iff_add_le]
    exact_mod_cast hlt
  have hpow : (2 : ℚ) ^ c.exponent ≤ 2 ^ e / 2 := by
    rw [div_eq_mul_inv, ← zpow_sub_one₀ (by norm_num)]
    exact zpow_le_zpow_right₀ (by norm_num) (by omega)
  exact mul_le_mul hmantissa hpow (by positivity) (by norm_num)

theorem IsDouble.add_le_value (hb : b.IsDouble) (hc : c.IsDouble) (h : b.value < c.value) :
    b.value + 2 ^ b.exponent ≤ c.value := by
  have hpos : (0 : ℚ) < 2 ^ b.exponent := by positivity
  by_cases hle : b.exponent ≤ c.exponent
  · obtain ⟨n, hn⟩ := exists_value_eq hle
    rw [hn, value, mul_lt_mul_iff_left₀ hpos] at h
    have hsucc : (b.mantissa + 1 : ℚ) ≤ n := by exact_mod_cast h
    have hscaled := mul_le_mul_of_nonneg_right hsucc hpos.le
    rw [hn, value]
    linarith
  · have hmantissa : (2 ^ 52 : ℚ) ≤ b.mantissa := by
      have hnormal := hb.normal (fun heq => hle (heq ▸ hc.le_exponent))
      exact_mod_cast hnormal
    have hscaled := mul_le_mul_of_nonneg_right hmantissa hpos.le
    have hbelow := hc.value_le_of_exponent_lt (not_le.mp hle)
    rw [value] at h
    linarith

theorem IsDouble.value_le_sub (hb : b.IsDouble) (hc : c.IsDouble) (h : c.value < b.value) :
    c.value ≤ b.value - b.gapBelow := by
  have hpos : (0 : ℚ) < 2 ^ b.exponent := by positivity
  have hgap := b.gapBelow_le
  by_cases hle : b.exponent ≤ c.exponent
  · obtain ⟨n, hn⟩ := exists_value_eq hle
    rw [hn, value, mul_lt_mul_iff_left₀ hpos] at h
    have hsucc : (n + 1 : ℚ) ≤ b.mantissa := by exact_mod_cast h
    have hscaled := mul_le_mul_of_nonneg_right hsucc hpos.le
    rw [hn, value]
    linarith
  · have hexponent : b.exponent ≠ -1074 := fun heq => hle (heq ▸ hc.le_exponent)
    have hbelow := hc.value_le_of_exponent_lt (not_le.mp hle)
    have hnormal := hb.normal hexponent
    have hvalue : b.value = b.mantissa * 2 ^ b.exponent := rfl
    unfold gapBelow
    rw [hvalue]
    split
    case isTrue hboundary =>
      have hmantissa : (b.mantissa : ℚ) = 2 ^ 52 := by
        exact_mod_cast (hb.atBoundary_iff.mp hboundary).1
      rw [hmantissa]
      linarith
    case isFalse hboundary =>
      have hne : b.mantissa ≠ 2 ^ 52 := fun heq =>
        hboundary (hb.atBoundary_iff.mpr ⟨heq, hexponent⟩)
      have hmantissa : (2 ^ 52 + 1 : ℚ) ≤ b.mantissa := by
        have hlt : 2 ^ 52 + 1 ≤ b.mantissa := by omega
        exact_mod_cast hlt
      have hscaled := mul_le_mul_of_nonneg_right hmantissa hpos.le
      linarith

/-!
# Rounding
-/

/-- A number is rounded to this double: every other one is farther away, or as far, and the
mantissa of this one is even. -/
def IsNearest (b : Binary) (q : ℚ) : Prop :=
  ∀ c : Binary, c.IsDouble → c.value ≠ b.value →
    |q - b.value| < |q - c.value| ∨ |q - b.value| = |q - c.value| ∧ b.mantissa % 2 = 0

theorem abs_sub_lt_iff_mul_pos (q r s : ℚ) :
    |q - r| < |q - s| ↔ 0 < (r - s) * (2 * q - r - s) := by
  have hsquares : (q - s) ^ 2 - (q - r) ^ 2 = (r - s) * (2 * q - r - s) := by ring
  rw [← sq_lt_sq, ← sub_pos, hsquares]

theorem abs_sub_le_iff_mul_nonneg (q r s : ℚ) :
    |q - r| ≤ |q - s| ↔ 0 ≤ (r - s) * (2 * q - r - s) := by
  have hsquares : (q - s) ^ 2 - (q - r) ^ 2 = (r - s) * (2 * q - r - s) := by ring
  rw [← sq_le_sq, ← sub_nonneg, hsquares]

theorem IsDouble.isNearest (hb : b.IsDouble) (hlow : b.value - b.gapBelow / 2 ≤ q)
    (hhigh : q ≤ b.value + 2 ^ b.exponent / 2)
    (hends : b.mantissa % 2 = 0 ∨
      b.value - b.gapBelow / 2 < q ∧ q < b.value + 2 ^ b.exponent / 2) : b.IsNearest q := by
  intro c hc hne
  rcases hends with heven | ⟨hlow, hhigh⟩
  · have hle : |q - b.value| ≤ |q - c.value| := by
      rw [abs_sub_le_iff_mul_nonneg]
      rcases lt_or_gt_of_ne hne with hlt | hgt
      · have hbelow := hb.value_le_sub hc hlt
        exact mul_nonneg (by linarith) (by linarith)
      · have habove := hb.add_le_value hc hgt
        exact mul_nonneg_of_nonpos_of_nonpos (by linarith) (by linarith)
    exact hle.lt_or_eq.imp_right (fun heq => ⟨heq, heven⟩)
  · left
    rw [abs_sub_lt_iff_mul_pos]
    rcases lt_or_gt_of_ne hne with hlt | hgt
    · have hbelow := hb.value_le_sub hc hlt
      exact mul_pos (by linarith) (by linarith)
    · have habove := hb.add_le_value hc hgt
      exact mul_pos_of_neg_of_neg (by linarith) (by linarith)

/-!
# Bits
-/

open Float.Model (Format UnpackedFloat)
open Float.Model.UnpackedFloat (Sign unpackExponent unpackMantissa unpackSign)

theorem toNat_unpackExponent (bits : UInt64) :
    (@unpackExponent Format.binary64 bits.toBitVec).toNat =
      bits.toNat / 2 ^ 52 % 2 ^ 11 := by
  delta unpackExponent
  rw [BitVec.toNat_cast, BitVec.extractLsb_toNat, Nat.shiftRight_eq_div_pow]
  rfl

theorem toNat_unpackMantissa (bits : UInt64) :
    (@unpackMantissa Format.binary64 bits.toBitVec).toNat = bits.toNat % 2 ^ 52 := by
  delta unpackMantissa
  rw [BitVec.toNat_cast, BitVec.extractLsb_toNat, Nat.shiftRight_zero]
  rfl

theorem toNat_unpackSign (bits : UInt64) :
    (@unpackSign Format.binary64 bits.toBitVec).toNat = bits.toNat / 2 ^ 63 := by
  have hlt := bits.toNat_lt
  delta unpackSign
  rw [BitVec.toNat_cast, BitVec.extractLsb_toNat, Nat.shiftRight_eq_div_pow]
  exact Nat.mod_eq_of_lt (by change bits.toNat / 2 ^ 63 < 2; omega)

theorem le_iff_ofBitVec_unpackSign (bits : UInt64) :
    2 ^ 63 ≤ bits.toNat ↔
      Sign.ofBitVec (@unpackSign Format.binary64 bits.toBitVec) = .negative := by
  have hsign := toNat_unpackSign bits
  rw [Sign.ofBitVec]
  split
  case isTrue hzero =>
    rw [hzero] at hsign
    have hbelow : ¬ 2 ^ 63 ≤ bits.toNat := by
      change 0 = bits.toNat / 2 ^ 63 at hsign
      omega
    exact iff_of_false hbelow Sign.noConfusion
  case isFalse hone =>
    have hfield : (@unpackSign Format.binary64 bits.toBitVec).toNat ≠ 0 :=
      fun h => hone (BitVec.eq_of_toNat_eq h)
    have habove : 2 ^ 63 ≤ bits.toNat := by omega
    exact iff_of_true habove rfl

def unpacked? : UnpackedFloat → Option (Sign × ℚ)
  | .zero s => some (s, 0)
  | .finite s m e _ => some (s, m * 2 ^ e)
  | _ => none

theorem exists_unpacked? {x : Float} (h : x.isFinite = true) :
    ∃ s r, unpacked? x.toModel.unpack = some (s, r) := by
  have hfinite : x.toModel.unpack.isFinite = true := h
  cases hunpack : x.toModel.unpack with
  | infinity s =>
      rw [hunpack] at hfinite
      cases hfinite
  | notANumber =>
      rw [hunpack] at hfinite
      cases hfinite
  | zero s => exact ⟨s, 0, rfl⟩
  | finite s m e hm => exact ⟨s, m * 2 ^ e, rfl⟩

/-- The bits are read as the standard unpacks them. -/
theorem isNegative_and_value_ofBits {x : Float} {s : Sign} {r : ℚ}
    (h : unpacked? x.toModel.unpack = some (s, r)) :
    (isNegative x = true ↔ s = .negative) ∧ (ofBits x.toBits).value = r := by
  have hexponent := toNat_unpackExponent x.toBits
  have hmantissa := toNat_unpackMantissa x.toBits
  have hsign := le_iff_ofBitVec_unpackSign x.toBits
  have hbias : ((Format.binary64.exponentBias : Nat) : Int) = 1023 := rfl
  have hwidth : ((Format.binary64.mantissaBitsWithoutImplicit : Nat) : Int) = 52 := rfl
  have hnegative : isNegative x = true ↔ 2 ^ 63 ≤ x.toBits.toNat := by
    rw [isNegative, decide_eq_true_eq, Nat.pow_eq]
  have hunpack : x.toModel.unpack = UnpackedFloat.unpack Format.binary64 x.toBits.toBitVec := rfl
  rw [hunpack] at h
  rw [hnegative, hsign, value]
  unfold ofBits
  simp only [Nat.pow_eq]
  rw [← hexponent, ← hmantissa]
  delta UnpackedFloat.unpack at h
  dsimp only at h
  by_cases hones : @unpackExponent Format.binary64 x.toBits.toBitVec = -BitVec.ofNat _ 1
  · -- All ones in the exponent: no number or an infinity.
    rw [if_pos hones] at h
    split at h <;> cases h
  rw [if_neg hones] at h
  by_cases hleast : @unpackExponent Format.binary64 x.toBits.toBitVec = BitVec.ofNat _ 0
  · rw [if_pos hleast] at h
    by_cases hzero : @unpackMantissa Format.binary64 x.toBits.toBitVec = BitVec.ofNat _ 0
    · rw [dif_pos hzero] at h
      cases h
      rw [hleast, hzero]
      exact ⟨Iff.rfl, by simp⟩
    · rw [dif_neg hzero] at h
      cases h
      rw [hleast]
      exact ⟨Iff.rfl, rfl⟩
  · rw [if_neg hleast] at h
    cases h
    have hfield : (@unpackExponent Format.binary64 x.toBits.toBitVec).toNat ≠ 0 :=
      fun h => hleast (BitVec.eq_of_toNat_eq h)
    have hlt := (@unpackMantissa Format.binary64 x.toBits.toBitVec).isLt
    rw [if_neg (mt beq_iff_eq.mp hfield)]
    refine ⟨Iff.rfl, ?_⟩
    dsimp only
    rw [BitVec.toNat_append, ← Nat.shiftLeft_add_eq_or_of_lt hlt, Nat.shiftLeft_eq, hbias, hwidth,
      Nat.add_comm _ (2 ^ 52)]
    rfl

end Binary
end Decimal
end FleetBridge
