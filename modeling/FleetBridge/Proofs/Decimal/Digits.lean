import FleetBridge.Decimal.Digits
import Mathlib.Algebra.Group.Nat.Defs
import Mathlib.Data.List.Induction

/-!
# Digits and the number they spell

The number of digits tells between which powers of ten a number lies.  Only zero is written
with a zero in front.
-/

namespace FleetBridge
namespace Decimal

theorem exists_digits_eq_cons {n : Nat} (h : 0 < n) :
    ∃ d ds, digits n = d :: ds ∧ d.val ≠ 0 := by
  induction n using Nat.strongRecOn with
  | _ n ih =>
      by_cases hsmall : n < 10
      · refine ⟨Fin.ofNat 10 n, [], digits_of_lt hsmall, ?_⟩
        simp only [Fin.ofNat]
        omega
      · have hge : 10 ≤ n := Nat.not_lt.mp hsmall
        obtain ⟨d, ds, hdigits, hd⟩ := ih (n / 10) (by omega) (by omega)
        refine ⟨d, ds ++ [Fin.ofNat 10 n], ?_, hd⟩
        rw [digits_of_ge hge, hdigits, List.cons_append]

theorem digits_ne_nil (n : Nat) : digits n ≠ [] := by
  rcases Nat.eq_zero_or_pos n with hzero | hpos
  · rw [hzero, digits_of_lt (by decide)]
    exact List.cons_ne_nil _ []
  · obtain ⟨d, ds, hdigits, _⟩ := exists_digits_eq_cons hpos
    rw [hdigits]
    exact List.cons_ne_nil d ds

theorem digitValue?_of_mem_chars {ds : List (Fin 10)} {c : Char} (h : c ∈ chars ds) :
    ∃ d, digitValue? c = some d := by
  obtain ⟨d, _, rfl⟩ := List.mem_map.mp h
  exact ⟨d, digitValue?_digitChar d⟩

theorem value_lt (ds : List (Fin 10)) : value ds < 10 ^ ds.length := by
  induction ds using List.reverseRecOn with
  | nil => exact Nat.one_pos
  | append_singleton ds d ih =>
      have hd := d.isLt
      rw [value_append_singleton, List.length_append, List.length_singleton, Nat.pow_succ]
      omega

theorem value_append (ds es : List (Fin 10)) :
    value (ds ++ es) = value ds * 10 ^ es.length + value es := by
  induction es using List.reverseRecOn with
  | nil => simp [value]
  | append_singleton es e ih =>
      rw [← List.append_assoc, value_append_singleton, value_append_singleton, ih,
        List.length_append, List.length_singleton, Nat.pow_succ, ← Nat.mul_assoc]
      omega

theorem value_cons (d : Fin 10) (ds : List (Fin 10)) :
    value (d :: ds) = d.val * 10 ^ ds.length + value ds := by
  rw [← List.singleton_append, value_append]
  simp [value]

theorem lt_pow_length_digits (n : Nat) : n < 10 ^ (digits n).length := by
  have hlt := value_lt (digits n)
  rw [value_digits] at hlt
  exact hlt

theorem pow_length_digits_le {n : Nat} (h : 0 < n) : 10 ^ ((digits n).length - 1) ≤ n := by
  obtain ⟨d, ds, hdigits, hd⟩ := exists_digits_eq_cons h
  have hvalue := value_digits n
  rw [hdigits, value_cons] at hvalue
  rw [hdigits, List.length_cons, Nat.add_sub_cancel, ← hvalue]
  exact Nat.le_add_right_of_le (Nat.le_mul_of_pos_left _ (Nat.pos_of_ne_zero hd))

end Decimal
end FleetBridge
