import FleetBridge.Proofs.Decimal.Binary
import FleetBridge.Proofs.Decimal.Digits

/-!
# The digits of a double

The decimal that is printed for a double lies in the interval around it, so a reader that
rounds correctly has that double back.  Seventeen digits are always enough: of the two
neighbours on that grid one is nearer than half the way to the next double.

A number is compared with the ends of the interval in integers.  Here both sides are read as
rational numbers.
-/

namespace FleetBridge
namespace Decimal

def Scientific.value (s : Scientific) : ℚ :=
  s.significand * 10 ^ s.exponent

/-!
# Comparing on a grid
-/

theorem zpow_mul_pow_toNat_neg {a : ℚ} (ha : a ≠ 0) (k : Int) :
    a ^ k * a ^ (-k).toNat = a ^ k.toNat := by
  rw [← zpow_natCast, ← zpow_natCast, ← zpow_add₀ ha]
  congr 1
  omega

theorem multiplied_out (n unit : Nat) (k : Int) :
    (n : ℚ) * 10 ^ k * unit * 10 ^ (-k).toNat = n * 10 ^ k.toNat * unit := by
  rw [← zpow_mul_pow_toNat_neg (by norm_num : (10 : ℚ) ≠ 0) k]
  ring

theorem le_sides_iff {unit : Nat} (hunit : 0 < unit) (bound n : Nat) (k : Int) :
    bound * 10 ^ (-k).toNat ≤ n * 10 ^ k.toNat * unit ↔ (bound : ℚ) / unit ≤ n * 10 ^ k := by
  have hcast : (0 : ℚ) < unit := by exact_mod_cast hunit
  have hscale : (0 : ℚ) < 10 ^ (-k).toNat := by positivity
  rw [div_le_iff₀ hcast, ← mul_le_mul_iff_left₀ hscale, multiplied_out]
  exact_mod_cast Iff.rfl

theorem sides_le_iff {unit : Nat} (hunit : 0 < unit) (bound n : Nat) (k : Int) :
    n * 10 ^ k.toNat * unit ≤ bound * 10 ^ (-k).toNat ↔ (n : ℚ) * 10 ^ k ≤ bound / unit := by
  have hcast : (0 : ℚ) < unit := by exact_mod_cast hunit
  have hscale : (0 : ℚ) < 10 ^ (-k).toNat := by positivity
  rw [le_div_iff₀ hcast, ← mul_le_mul_iff_left₀ hscale, multiplied_out]
  exact_mod_cast Iff.rfl

namespace Shortest
namespace Interval

def Holds (i : Interval) (q : ℚ) : Prop :=
  if i.closed then (i.low : ℚ) / i.unit ≤ q ∧ q ≤ i.high / i.unit
  else (i.low : ℚ) / i.unit < q ∧ q < i.high / i.unit

variable {i : Interval} {n count : Nat} {k : Int} {tie : Tie} {s : Scientific}

theorem contains_iff (hunit : 0 < i.unit) : i.contains n k = true ↔ i.Holds (n * 10 ^ k) := by
  have hlow := le_sides_iff hunit i.low n k
  have hhigh := sides_le_iff hunit i.high n k
  have hlow' := sides_le_iff hunit i.low n k
  have hhigh' := le_sides_iff hunit i.high n k
  unfold contains sides Holds
  simp only [Nat.pow_eq]
  cases i.closed with
  | true => simp only [if_true, Bool.and_eq_true, decide_eq_true_eq, hlow, hhigh]
  | false =>
      simp only [Bool.false_eq_true, if_false, Bool.and_eq_true, decide_eq_true_eq, ← Nat.not_le,
        hlow', hhigh', not_le]

theorem value_onGrid (count n : Nat) (k : Int) :
    (Scientific.onGrid count n k).value = n * 10 ^ k := by
  unfold Scientific.onGrid Scientific.value
  split
  · rename_i h
    rw [beq_iff_eq.mp h, Nat.pow_eq, zpow_add₀ (by norm_num), zpow_natCast]
    push_cast
    ring
  · rfl

theorem holds_of_onGrid? (hunit : 0 < i.unit) (h : i.onGrid? tie count = some s) :
    i.Holds s.value := by
  unfold onGrid? at h
  dsimp only at h
  generalize i.middle * Nat.pow 10 (-(i.magnitude - count)).toNat /
    (i.unit * Nat.pow 10 (i.magnitude - count).toNat) = below at h
  split at h
  case h_1 hbelow habove =>
    cases h
    rw [value_onGrid]
    split
    · exact (contains_iff hunit).mp hbelow
    · exact (contains_iff hunit).mp habove
  case h_2 hbelow _ =>
    cases h
    rw [value_onGrid]
    exact (contains_iff hunit).mp hbelow
  case h_3 _ habove =>
    cases h
    rw [value_onGrid]
    exact (contains_iff hunit).mp habove
  case h_4 => cases h

/-!
# Seventeen digits are enough
-/

def below (i : Interval) (k : Int) : Nat :=
  i.middle * Nat.pow 10 (-k).toNat / (i.unit * Nat.pow 10 k.toNat)

theorem below_le (hunit : 0 < i.unit) (k : Int) :
    (i.below k : ℚ) * 10 ^ k ≤ i.middle / i.unit := by
  rw [← sides_le_iff hunit, mul_assoc, Nat.mul_comm (10 ^ k.toNat)]
  exact Nat.div_mul_le_self _ _

theorem lt_below_succ (hunit : 0 < i.unit) (k : Int) :
    (i.middle / i.unit : ℚ) < (i.below k + 1 : Nat) * 10 ^ k := by
  have hscale : 0 < i.unit * 10 ^ k.toNat := by positivity
  rw [← not_le, ← sides_le_iff hunit, not_le, mul_assoc, Nat.mul_comm (10 ^ k.toNat),
    Nat.mul_comm (i.below k + 1)]
  exact Nat.lt_mul_div_succ _ hscale

theorem isSome_onGrid? (tie : Tie) (count : Nat)
    (h : i.contains (i.below (i.magnitude - count)) (i.magnitude - count) = true ∨
      i.contains (i.below (i.magnitude - count) + 1) (i.magnitude - count) = true) :
    (i.onGrid? tie count).isSome = true := by
  unfold below at h
  unfold onGrid?
  dsimp only
  rcases h with h | h
  · rw [h]
    split <;> first | rfl | contradiction
  · rw [h]
    split <;> first | rfl | contradiction

theorem pow_magnitude_le (hunit : 0 < i.unit) (hmiddle : 0 < i.middle) :
    (10 : ℚ) ^ (i.magnitude - 1) ≤ i.middle / i.unit := by
  have hu : (0 : ℚ) < i.unit := by exact_mod_cast hunit
  have hm : (0 : ℚ) < i.middle := by exact_mod_cast hmiddle
  unfold magnitude
  split
  case isTrue hle =>
    have hpos : 0 < i.middle / i.unit := Nat.div_pos hle hunit
    have hlength : 0 < (digits (i.middle / i.unit)).length :=
      List.length_pos_iff.mpr (digits_ne_nil _)
    have hpow : 10 ^ ((digits (i.middle / i.unit)).length - 1) * i.unit ≤ i.middle :=
      (Nat.le_div_iff_mul_le hunit).mp (pow_length_digits_le hpos)
    rw [le_div_iff₀ hu, ← Nat.cast_one, ← Nat.cast_sub hlength, zpow_natCast]
    exact_mod_cast hpow
  case isFalse hgt =>
    have hpow := lt_pow_length_digits ((i.unit + i.middle - 1) / i.middle - 1)
    generalize (digits ((i.unit + i.middle - 1) / i.middle - 1)).length = length at hpow
    have hceil : (i.unit + i.middle - 1) / i.middle < 10 ^ length + 1 := by omega
    have hunit_le : i.unit ≤ 10 ^ length * i.middle := by
      rw [Nat.div_lt_iff_lt_mul hmiddle, Nat.add_mul] at hceil
      omega
    have hexponent : (1 - (length : Int) - 1) = -(length : Int) := by omega
    rw [hexponent, zpow_neg, zpow_natCast, le_div_iff₀ hu, inv_mul_le_iff₀ (by positivity)]
    exact_mod_cast hunit_le

/-- Whether the ends keep a distance to the middle that a double of 53 bits has. -/
structure Wide (i : Interval) : Prop where
  unit : 0 < i.unit
  middle : 0 < i.middle
  low : (i.low / i.unit : ℚ) ≤ i.middle / i.unit * (1 - 1 / 2 ^ 54)
  high : (i.middle / i.unit : ℚ) * (1 + 1 / 2 ^ 54) ≤ i.high / i.unit

theorem holds_of_lt {q : ℚ} (hlow : (i.low / i.unit : ℚ) < q) (hhigh : q < i.high / i.unit) :
    i.Holds q := by
  unfold Holds
  split
  · exact ⟨hlow.le, hhigh.le⟩
  · exact ⟨hlow, hhigh⟩

theorem Wide.isSome_onGrid? (h : i.Wide) (tie : Tie) : (i.onGrid? tie 17).isSome = true := by
  have hmagnitude := pow_magnitude_le h.unit h.middle
  have hlow := h.low
  have hhigh := h.high
  have hbelow := below_le h.unit (i.magnitude - (17 : Nat))
  have habove := lt_below_succ h.unit (i.magnitude - (17 : Nat))
  have hstep : (10 : ℚ) ^ (i.magnitude - 1) = 10 ^ 16 * 10 ^ (i.magnitude - (17 : Nat)) := by
    rw [← zpow_natCast, ← zpow_add₀ (by norm_num)]
    congr 1
    omega
  have hpos : (0 : ℚ) < 10 ^ (i.magnitude - (17 : Nat)) := by positivity
  apply Interval.isSome_onGrid?
  rw [contains_iff h.unit, contains_iff h.unit]
  rw [hstep] at hmagnitude
  generalize i.below (i.magnitude - (17 : Nat)) = n at *
  generalize (10 : ℚ) ^ (i.magnitude - (17 : Nat)) = step at *
  generalize (i.middle / i.unit : ℚ) = v at *
  push_cast at habove ⊢
  -- Half a step is less than the distance to either end, since `2 ^ 54 < 2 * 10 ^ 16`.
  by_cases hnear : v - n * step ≤ step / 2
  · left
    apply holds_of_lt <;> linarith
  · right
    apply holds_of_lt <;> linarith

/-!
# The interval around a double
-/

variable {b : Binary}

theorem div_unit_ofBinary (b : Binary) (n : ℚ) :
    n * 2 ^ b.exponent.toNat / (ofBinary b).unit = n / 4 * 2 ^ b.exponent := by
  have hscale : (2 : ℚ) ^ (-b.exponent).toNat ≠ 0 := by positivity
  rw [ofBinary, ← zpow_mul_pow_toNat_neg (by norm_num) b.exponent]
  push_cast [Nat.pow_eq]
  rw [← mul_assoc, mul_div_mul_right _ _ hscale]
  ring

theorem middle_div_unit (b : Binary) :
    ((ofBinary b).middle / (ofBinary b).unit : ℚ) = b.value := by
  have hmiddle : ((ofBinary b).middle : ℚ) = 4 * b.mantissa * 2 ^ b.exponent.toNat := by
    simp [ofBinary]
  rw [hmiddle, div_unit_ofBinary, Binary.value]
  ring

theorem high_div_unit (b : Binary) :
    ((ofBinary b).high / (ofBinary b).unit : ℚ) = b.value + 2 ^ b.exponent / 2 := by
  have hhigh : ((ofBinary b).high : ℚ) = (4 * b.mantissa + 2) * 2 ^ b.exponent.toNat := by
    simp [ofBinary]
  rw [hhigh, div_unit_ofBinary, Binary.value]
  ring

theorem low_div_unit (hpos : 0 < b.mantissa) :
    ((ofBinary b).low / (ofBinary b).unit : ℚ) = b.value - b.gapBelow / 2 := by
  have hlow : ((ofBinary b).low : ℚ) =
      (4 * b.mantissa - if b.atBoundary then 1 else 2) * 2 ^ b.exponent.toNat := by
    have hle : (if b.atBoundary then 1 else 2) ≤ 4 * b.mantissa := by
      split <;> omega
    simp only [ofBinary, Nat.pow_eq]
    push_cast [Nat.cast_sub hle]
    rfl
  rw [hlow, div_unit_ofBinary, Binary.value, Binary.gapBelow]
  split <;> ring

theorem unit_ofBinary_pos (b : Binary) : 0 < (ofBinary b).unit := by
  simp only [ofBinary, Nat.pow_eq]
  positivity

theorem middle_ofBinary_pos (hpos : 0 < b.mantissa) : 0 < (ofBinary b).middle := by
  simp only [ofBinary, Nat.pow_eq]
  positivity

theorem wide_ofBinary (hb : b.IsDouble) (hpos : 0 < b.mantissa) : (ofBinary b).Wide := by
  have hgap := hb.value_le_gapBelow
  have hgap_le := b.gapBelow_le
  refine ⟨unit_ofBinary_pos b, middle_ofBinary_pos hpos, ?_, ?_⟩
  · rw [middle_div_unit, low_div_unit hpos]
    linarith
  · rw [middle_div_unit, high_div_unit]
    linarith

theorem isNearest_of_holds (hb : b.IsDouble) (hpos : 0 < b.mantissa) {q : ℚ}
    (h : (ofBinary b).Holds q) : b.IsNearest q := by
  unfold Holds at h
  rw [low_div_unit hpos, high_div_unit] at h
  split at h
  case isTrue hclosed =>
    exact hb.isNearest h.1 h.2 (Or.inl (beq_iff_eq.mp hclosed))
  case isFalse => exact hb.isNearest h.1.le h.2.le (Or.inr h)

end Interval
end Shortest

/-- The digits of a double are rounded to that double. -/
theorem isNearest_shortest (tie : Tie) (x : Float) :
    (Binary.ofBits x.toBits).IsNearest (shortest tie x).value := by
  have hdouble := Binary.isDouble_ofBits x.toBits
  unfold shortest
  generalize Binary.ofBits x.toBits = b at *
  dsimp only
  split
  case isTrue hzero =>
    intro c _ hne
    have hvalue : b.value = 0 := by
      rw [Binary.value, beq_iff_eq.mp hzero, Nat.cast_zero, zero_mul]
    left
    rw [hvalue] at hne ⊢
    simpa [Scientific.value] using hne
  case isFalse hnonzero =>
    have hpos : 0 < b.mantissa := by
      rw [beq_iff_eq] at hnonzero
      omega
    have hwide := Shortest.Interval.wide_ofBinary hdouble hpos
    generalize hfind : (List.range 17).findSome?
      (fun n => (Shortest.Interval.ofBinary b).onGrid? tie (n + 1)) = found
    cases found with
    | none =>
        have hlast := List.findSome?_eq_none_iff.mp hfind 16 (by decide)
        have hsome := hwide.isSome_onGrid? tie
        rw [hlast] at hsome
        cases hsome
    | some s =>
        obtain ⟨n, _, hn⟩ := List.exists_of_findSome?_eq_some hfind
        exact Shortest.Interval.isNearest_of_holds hdouble hpos
          (Shortest.Interval.holds_of_onGrid? hwide.unit hn)

end Decimal
end FleetBridge
