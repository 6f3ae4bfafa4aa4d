import FleetBridge.Proofs.Text.Hex
import FleetBridge.Uuid

/-!
# Reading identifiers back

The grouped form of an identifier is read back as that identifier.  It has always the same
length, so at the end of a text it tells which identifier it is.
-/

namespace FleetBridge
namespace Uuid

theorem length_group {ds : List Char} (h : ds.length = 32) : (group ds).length = 36 := by
  simp [group, h]

theorem groups_append (ds : List Char) :
    ds.take 8 ++ ((ds.drop 8).take 4 ++ ((ds.drop 12).take 4 ++
      ((ds.drop 16).take 4 ++ ds.drop 20))) = ds := by
  have hstep (n : Nat) : (ds.drop n).take 4 ++ ds.drop (n + 4) = ds.drop n := by
    rw [← List.drop_drop, List.take_append_drop]
  rw [hstep 16, hstep 12, hstep 8, List.take_append_drop]

theorem ungroup?_group {ds : List Char} (h : ds.length = 32) :
    ungroup? (group ds) = some ds := by
  have hdigits : (group ds).take 8 ++ ((group ds).drop 9).take 4 ++
      ((group ds).drop 14).take 4 ++ ((group ds).drop 19).take 4 ++ (group ds).drop 24 = ds := by
    have hgroups := groups_append ds
    simpa [group, List.take_append, List.drop_append, List.drop_take, h] using hgroups
  simp only [ungroup?, hdigits, length_group h, BEq.rfl, Bool.and_self, if_true]

theorem parse?_text (u : Uuid) : parse? u.text = some u := by
  have hcount := Text.length_hexDigits 32 u.value.toNat
  have hdigits : digits? (group (Text.hexDigits 32 u.value.toNat)) =
      some (Text.hexDigits 32 u.value.toNat) := by
    simp only [digits?, length_group hcount, ungroup?_group hcount, Nat.reduceBEq,
      Bool.false_eq_true, if_false, if_true]
  have hsize : u.value.toNat < 16 ^ 32 := u.value.isLt
  have hvalue : Text.ofHexDigits? (Text.hexDigits 32 u.value.toNat) = some u.value.toNat := by
    rw [Text.ofHexDigits?_hexDigits, Nat.mod_eq_of_lt hsize]
  simp only [parse?, text, String.toList_ofList, hdigits, hvalue, Option.bind_eq_bind,
    Option.bind_some, BitVec.ofNat_toNat, BitVec.setWidth_eq, Option.pure_def]

theorem text_injective : Function.Injective text := by
  intro u v h
  have hparse := parse?_text u
  rw [h, parse?_text v] at hparse
  exact (Option.some.inj hparse).symm

theorem length_toList_text (u : Uuid) : u.text.toList.length = 36 := by
  rw [text, String.toList_ofList]
  exact length_group (Text.length_hexDigits 32 u.value.toNat)

theorem eq_of_append_text {s t : String} {u v : Uuid} (h : s ++ u.text = t ++ v.text) :
    u = v := by
  have hlists := congrArg String.toList h
  rw [String.toList_append, String.toList_append] at hlists
  have hlength : u.text.toList.length = v.text.toList.length :=
    (length_toList_text u).trans (length_toList_text v).symm
  exact text_injective (String.toList_inj.mp (List.append_inj_right' hlists hlength))

end Uuid
end FleetBridge
