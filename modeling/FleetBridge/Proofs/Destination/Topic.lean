import FleetBridge.Destination
import Mathlib.Data.List.Basic

/-!
# Topics taken apart

The topics that are taken apart are those that are put together from two names and a kind,
whatever the root is; a name is a segment of a topic, so it is not empty and has no slash.
The root may have slashes of its own, and may look like a part of what follows it: it is cut
off as a whole, and the slash that comes next is where the names begin.
-/

namespace FleetBridge
namespace Destination

/-!
# Texts cut at a character
-/

theorem not_mem_of_mem_splitOn {a : Char} {s piece : List Char} (h : piece ∈ s.splitOn a) :
    a ∉ piece := by
  induction s generalizing piece with
  | nil =>
      rw [List.splitOn_nil, List.mem_singleton] at h
      rw [h]
      exact List.not_mem_nil
  | cons c s ih =>
      rw [List.splitOn_cons_eq_if_modifyHead] at h
      by_cases hc : (c == a) = true
      · rw [if_pos hc] at h
        rcases List.mem_cons.mp h with rfl | hrest
        · exact List.not_mem_nil
        · exact ih hrest
      · rw [if_neg hc] at h
        -- The character goes to the first of the pieces that the rest is cut into.
        rcases List.exists_cons_of_ne_nil (List.splitOn_ne_nil a s) with ⟨first, pieces, hs⟩
        rw [hs] at h ih
        rcases List.mem_cons.mp h with rfl | hrest
        · rw [List.mem_cons, not_or]
          exact ⟨fun heq => hc (beq_iff_eq.mpr heq.symm), ih List.mem_cons_self⟩
        · exact ih (List.mem_cons_of_mem first hrest)

/-- A text is cut into the pieces of which it is put together. -/
theorem splitOn_eq_iff {a : Char} {s : List Char} {pieces : List (List Char)}
    (hpieces : pieces ≠ []) :
    s.splitOn a = pieces ↔ s = [a].intercalate pieces ∧ ∀ piece ∈ pieces, a ∉ piece := by
  constructor
  · rintro rfl
    exact ⟨(List.intercalate_splitOn a).symm, fun _ => not_mem_of_mem_splitOn⟩
  · rintro ⟨rfl, hnot⟩
    exact List.splitOn_intercalate a hnot hpieces

end Destination

namespace Message.Kind

theorem ofName?_eq_some_iff {s : String} {k : Kind} : ofName? s = some k ↔ s = k.name := by
  constructor
  · intro h
    have hname := List.find?_some (p := fun kind : Kind => kind.name == s) h
    exact (beq_iff_eq.mp hname).symm
  · rintro rfl
    exact ofName?_name k

theorem slash_not_mem_name (k : Kind) : '/' ∉ k.name.toList := by
  cases k <;> decide

end Message.Kind

namespace Destination
namespace Resolver

/-- A text that may stand between two slashes of a topic. -/
def IsSegment (s : String) : Prop :=
  s ≠ "" ∧ '/' ∉ s.toList

theorem origin?_eq_some_iff {r : Resolver} {t : String} {o : Origin} :
    r.origin? t = some o ↔
      ∃ rest, r.root.toList ++ '/' :: rest = t.toList ∧
        rest.splitOn '/' = [o.manufacturer.toList, o.device.toList, o.kind.name.toList] ∧
        o.manufacturer ≠ "" ∧ o.device ≠ "" := by
  constructor
  · intro h
    rcases Option.bind_eq_some_iff.mp h with ⟨below, hbelow, h⟩
    have hroot := List.isPrefixOf?_eq_some_iff_append_eq.mp hbelow
    split at h
    · rename_i rest
      split at h
      · rename_i m d name hsplit
        rcases Option.bind_eq_some_iff.mp h with ⟨k, hk, h⟩
        by_cases hempty : (m.isEmpty || d.isEmpty) = true
        · rw [if_pos hempty] at h
          cases h
        · rw [if_neg hempty] at h
          cases h
          have hname := Message.Kind.ofName?_eq_some_iff.mp hk
          simp only [Bool.or_eq_true, List.isEmpty_iff, not_or] at hempty
          refine ⟨rest, hroot, ?_, ?_, ?_⟩
          · simp only [hsplit, String.toList_ofList, ← hname]
          · exact mt String.ofList_eq_empty_iff.mp hempty.1
          · exact mt String.ofList_eq_empty_iff.mp hempty.2
      · cases h
    · cases h
  · rintro ⟨rest, hroot, hsplit, hm, hd⟩
    rcases o with ⟨m, d, k⟩
    have hbelow := List.isPrefixOf?_eq_some_iff_append_eq.mpr hroot
    have hempty : (m.toList.isEmpty || d.toList.isEmpty) = false := by
      simp [String.toList_eq_nil_iff, hm, hd]
    simp only [origin?, hbelow, Option.bind_eq_bind, Option.bind_some, hsplit,
      String.ofList_toList, Message.Kind.ofName?_name, hempty, Bool.false_eq_true, if_false,
      Option.pure_def]

theorem toList_topic (r : Resolver) (m d : String) (k : Message.Kind) :
    (r.topic m d k).toList =
      r.root.toList ++ '/' :: ['/'].intercalate [m.toList, d.toList, k.name.toList] := by
  simp [topic, List.intercalate]

/-- A text is taken apart into two names and a kind exactly if it is their topic and both
can be segments of one.  That topic is where messages of the kind go over the queue. -/
theorem origin?_iff_topic (r : Resolver) (t m d : String) (k : Message.Kind) :
    (r.origin? t = some { manufacturer := m, device := d, kind := k } ↔
        t = r.topic m d k ∧ IsSegment m ∧ IsSegment d) ∧
      r.resolve d m k .queue = r.topic m d k := by
  refine ⟨?_, rfl⟩
  rw [origin?_eq_some_iff]
  constructor
  · rintro ⟨rest, hroot, hsplit, hm, hd⟩
    rcases (splitOn_eq_iff (List.cons_ne_nil _ _)).mp hsplit with ⟨rfl, hnot⟩
    have ht : t = r.topic m d k :=
      String.toList_inj.mp (hroot.symm.trans (toList_topic r m d k).symm)
    exact ⟨ht, ⟨hm, hnot _ (by simp)⟩, ⟨hd, hnot _ (by simp)⟩⟩
  · rintro ⟨rfl, ⟨hm, hm'⟩, ⟨hd, hd'⟩⟩
    refine ⟨_, (toList_topic r m d k).symm, ?_, hm, hd⟩
    refine (splitOn_eq_iff (List.cons_ne_nil _ _)).mpr ⟨rfl, ?_⟩
    intro piece hpiece
    simp only [List.mem_cons, List.not_mem_nil, or_false] at hpiece
    rcases hpiece with rfl | rfl | rfl
    · exact hm'
    · exact hd'
    · exact k.slash_not_mem_name

end Resolver
end Destination
end FleetBridge
