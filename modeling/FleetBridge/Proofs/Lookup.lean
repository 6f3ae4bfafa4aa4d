import Mathlib.Data.List.Nodup

/-!
# Looking up by key

In a list whose elements have different keys, an element is found exactly if it is
there.
-/

namespace FleetBridge

variable {α : Type} {key : α → String} {l : List α}

theorem find?_key_eq_some_iff (h : (l.map key).Nodup) {k : String} {a : α} :
    l.find? (fun b => key b == k) = some a ↔ a ∈ l ∧ key a = k := by
  constructor
  · intro hfind
    have hkey := List.find?_some hfind
    exact ⟨List.mem_of_find?_eq_some hfind, by simpa using hkey⟩
  · intro hmem
    rcases hmem with ⟨hmem, rfl⟩
    have hsome : (l.find? (fun b => key b == key a)).isSome = true := by
      apply List.find?_isSome.mpr
      exact ⟨a, hmem, by simp⟩
    rcases Option.isSome_iff_exists.mp hsome with ⟨other, hother⟩
    have hkey : key other = key a := by
      have hfound := List.find?_some hother
      simpa using hfound
    rw [hother, List.inj_on_of_nodup_map h (List.mem_of_find?_eq_some hother) hmem hkey]

theorem find?_key_filter (h : (l.map key).Nodup) (p : α → Bool) (k : String) :
    (l.filter p).find? (fun b => key b == k) = (l.find? (fun b => key b == k)).filter p := by
  have hfilter : ((l.filter p).map key).Nodup := h.sublist (List.filter_sublist.map key)
  apply Option.ext
  intro a
  rw [find?_key_eq_some_iff hfilter, Option.filter_eq_some_iff, find?_key_eq_some_iff h,
    List.mem_filter]
  constructor
  · intro ha
    exact ⟨⟨ha.1.1, ha.2⟩, ha.1.2⟩
  · intro ha
    exact ⟨⟨ha.1.1, ha.2⟩, ha.1.2⟩

theorem filter_key_eq_singleton (h : (l.map key).Nodup) {a : α} (ha : a ∈ l) :
    l.filter (fun b => key a == key b) = [a] := by
  induction l with
  | nil => cases ha
  | cons first rest ih =>
      rw [List.map_cons, List.nodup_cons] at h
      rcases h with ⟨hfirst, hrest⟩
      rcases List.mem_cons.mp ha with rfl | hmem
      · have hnone : rest.filter (fun b => key a == key b) = [] := by
          rw [List.filter_eq_nil_iff]
          intro b hb heq
          rw [beq_iff_eq.mp heq] at hfirst
          exact hfirst (List.mem_map_of_mem hb)
        rw [List.filter_cons, if_pos (beq_self_eq_true _), hnone]
      · have hne : ¬ (key a == key first) = true := by
          intro heq
          rw [← beq_iff_eq.mp heq] at hfirst
          exact hfirst (List.mem_map_of_mem hmem)
        rw [List.filter_cons, if_neg hne, ih hrest hmem]

theorem lookup_eq_none {ms : List (String × α)} {name : String} (h : name ∉ ms.map Prod.fst) :
    ms.lookup name = none := by
  rw [List.lookup_eq_none_iff]
  intro m hm
  simp only [bne_iff_ne]
  rintro rfl
  exact h (List.mem_map_of_mem hm)

theorem lookup_of_mem {ms : List (String × α)} (h : (ms.map Prod.fst).Nodup) {name : String}
    {a : α} (hmem : (name, a) ∈ ms) : ms.lookup name = some a := by
  rcases List.mem_iff_append.mp hmem with ⟨before, behind, rfl⟩
  have hname : name ∉ before.map Prod.fst := by
    intro hbefore
    rw [List.map_append, List.nodup_append] at h
    exact h.2.2 name hbefore name List.mem_cons_self rfl
  rw [List.lookup_append, lookup_eq_none hname, List.lookup_cons_self, Option.none_or]

end FleetBridge
