import FleetBridge.Decimal.Digits
import FleetBridge.Time.Reading
import Mathlib.Algebra.Group.Nat.Defs

/-!
# Numbers of fixed width

A number written with leading zeros is read back by a reader that takes as many
digits as were written.
-/

namespace FleetBridge
namespace Decimal

theorem length_digits_le {width n : Nat} (hwidth : 0 < width) (hn : n < 10 ^ width) :
    (digits n).length ≤ width := by
  induction width generalizing n with
  | zero => omega
  | succ width ih =>
      by_cases hsmall : n < 10
      · rw [digits_of_lt hsmall]
        simp
      · have hge : 10 ≤ n := Nat.not_lt.mp hsmall
        have hpos : 0 < width := by
          rcases Nat.eq_zero_or_pos width with hzero | hpos
          · subst hzero
            omega
          · exact hpos
        have hdiv : n / 10 < 10 ^ width := by
          rw [Nat.div_lt_iff_lt_mul (by decide)]
          exact hn
        have hlength := ih hpos hdiv
        rw [digits_of_ge hge]
        simpa using hlength

def paddedDigits (width n : Nat) : List (Fin 10) :=
  List.replicate (width - (digits n).length) zero ++ digits n

theorem padded_eq_chars (width n : Nat) : padded width n = chars (paddedDigits width n) := by
  have hzero : digitChar zero = '0' := by decide
  simp [padded, paddedDigits, chars, hzero]

theorem length_paddedDigits {width n : Nat} (hwidth : 0 < width) (hn : n < 10 ^ width) :
    (paddedDigits width n).length = width := by
  have hlength := length_digits_le hwidth hn
  simp only [paddedDigits, List.length_append, List.length_replicate]
  omega

theorem value_replicate_zero_append (k : Nat) (ds : List (Fin 10)) :
    value (List.replicate k zero ++ ds) = value ds := by
  induction k with
  | zero => rfl
  | succ k ih => exact ih

theorem value_paddedDigits (width n : Nat) : value (paddedDigits width n) = n := by
  rw [paddedDigits, value_replicate_zero_append, value_digits]

theorem spanDigits_padded (width n : Nat) (rest : List Char)
    (h : ∀ c, rest.head? = some c → digitValue? c = none) :
    spanDigits (padded width n ++ rest) = (paddedDigits width n, rest) := by
  rw [padded_eq_chars]
  exact spanDigits_chars _ rest h

end Decimal

namespace Time
namespace Reading

open Decimal

/-- A field of fixed width is read back, whatever follows it. -/
theorem number?_padded {width n : Nat} (hwidth : 0 < width) (hn : n < 10 ^ width)
    (rest : List Char) :
    number? width width (padded width n ++ rest) = some (n, rest) := by
  have hlength := length_paddedDigits hwidth hn
  have hchars : (padded width n).length = width := by
    rw [padded_eq_chars]
    simpa [chars] using hlength
  have htake : (padded width n ++ rest).take width = padded width n := by
    rw [List.take_append_of_le_length (by omega), List.take_of_length_le (by omega)]
  have hspan : (spanDigits (padded width n)).1 = paddedDigits width n := by
    have hall := spanDigits_padded width n [] (by simp)
    rw [List.append_nil] at hall
    rw [hall]
  have hdrop : (padded width n ++ rest).drop width = rest := by
    rw [List.drop_append_of_le_length (by omega), List.drop_eq_nil_of_le (by omega),
      List.nil_append]
  simp only [number?, htake, hspan, hlength, Nat.lt_irrefl, if_false, value_paddedDigits, hdrop]

end Reading
end Time
end FleetBridge
