import FleetBridge.Text.Hex
import Mathlib.Algebra.Group.Nat.Defs

/-!
# Reading hexadecimal digits back

Digits of a fixed width spell the number they were written for, less what the
width cuts off.
-/

namespace FleetBridge
namespace Text

theorem ofHexDigits?_append (ds : List Char) (d : Char) :
    ofHexDigits? (ds ++ [d]) =
      (ofHexDigits? ds).bind (fun n => (hexValue? d).map (n * 16 + ·)) := by
  simp only [ofHexDigits?, List.foldlM_append, List.foldlM_cons, List.foldlM_nil, bind_pure]
  rfl

theorem ofHexDigits?_hexDigits (count n : Nat) :
    ofHexDigits? (hexDigits count n) = some (n % 16 ^ count) := by
  induction count generalizing n with
  | zero => simp [hexDigits, ofHexDigits?, Nat.mod_one]
  | succ count ih =>
      have hlast : n % 16 < 16 := Nat.mod_lt n (by decide)
      have hsplit : n % 16 ^ (count + 1) = n / 16 % 16 ^ count * 16 + n % 16 := by
        rw [Nat.pow_succ, Nat.mul_comm, Nat.mod_mul, Nat.mul_comm, Nat.add_comm]
      rw [hexDigits, ofHexDigits?_append, ih, hexValue?_hexDigit _ hlast, hsplit]
      rfl

end Text
end FleetBridge
