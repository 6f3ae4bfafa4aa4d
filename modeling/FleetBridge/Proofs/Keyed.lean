import FleetBridge.Keyed

/-!
# Looking up in keyed lists

A keyed list is seen through the value under each key.  Putting, changing and erasing
touch one key; filtering looks at each key by itself.
-/

namespace FleetBridge
namespace Keyed

variable {κ α : Type} [DecidableEq κ]

theorem find?_eq_none_iff {m : Keyed κ α} {k : κ} : m.find? k = none ↔ k ∉ m.keys := by
  unfold find? keys
  induction m.entries with
  | nil => simp
  | cons e rest ih =>
      rcases e with ⟨l, a⟩
      rw [List.lookup_cons, List.map_cons, List.mem_cons, not_or]
      by_cases h : k = l
      · simp [h]
      · have hbeq : (k == l) = false := by simpa using h
        simp only [hbeq]
        rw [ih]
        exact ⟨fun hrest => ⟨h, hrest⟩, And.right⟩

theorem find?_map (f : κ → α → α) (m : Keyed κ α) (k : κ) :
    (m.map f).find? k = (m.find? k).map (f k) := by
  show (m.entries.map (fun e => (e.1, f e.1 e.2))).lookup k = (m.entries.lookup k).map (f k)
  induction m.entries with
  | nil => rfl
  | cons e rest ih =>
      rcases e with ⟨l, a⟩
      simp only [List.map_cons, List.lookup_cons]
      by_cases h : k = l
      · subst h
        simp
      · have hbeq : (k == l) = false := by simpa using h
        simp only [hbeq]
        exact ih

theorem find?_filter (p : κ → α → Bool) (m : Keyed κ α) (k : κ) :
    (m.filter p).find? k = (m.find? k).filter (p k) := by
  rcases m with ⟨entries, hnodup⟩
  show (entries.filter (fun e => p e.1 e.2)).lookup k = (entries.lookup k).filter (p k)
  induction entries with
  | nil => rfl
  | cons e rest ih =>
      rcases e with ⟨l, a⟩
      rw [List.map_cons, List.nodup_cons] at hnodup
      rcases hnodup with ⟨hfirst, hrest⟩
      by_cases h : k = l
      · subst h
        -- The key stands nowhere else, so nothing takes the place of what is left out.
        have hnone : List.lookup k (rest.filter (fun e => p e.1 e.2)) = none := by
          rw [List.lookup_eq_none_iff]
          intro e he
          have hmem := List.mem_map_of_mem (f := Prod.fst) (List.mem_filter.mp he).1
          apply bne_iff_ne.mpr
          intro heq
          exact hfirst (heq ▸ hmem)
        cases hp : p k a <;> simp [Option.filter, hp, hnone]
      · have hbeq : (k == l) = false := by simpa using h
        cases hp : p l a <;> simp [List.lookup_cons, hbeq, hp, ih hrest]

theorem find?_erase_self (k : κ) (m : Keyed κ α) : (m.erase k).find? k = none := by
  rw [erase, find?_filter]
  cases m.find? k <;> simp [Option.filter]

theorem find?_erase_of_ne {k l : κ} (h : l ≠ k) (m : Keyed κ α) :
    (m.erase k).find? l = m.find? l := by
  rw [erase, find?_filter]
  cases m.find? l <;> simp [Option.filter, h]

theorem find?_insert_self (k : κ) (a : α) (m : Keyed κ α) :
    (m.insert k a).find? k = some a := by
  unfold insert
  split
  · rename_i hmem
    rw [find?_map]
    cases hfind : m.find? k with
    | none => exact absurd hmem (find?_eq_none_iff.mp hfind)
    | some b => simp
  · rename_i hnot
    have hnone : m.entries.lookup k = none := find?_eq_none_iff.mpr hnot
    simp [find?, List.lookup_append, hnone]

theorem find?_insert_of_ne {k l : κ} (h : l ≠ k) (a : α) (m : Keyed κ α) :
    (m.insert k a).find? l = m.find? l := by
  unfold insert
  split
  · rw [find?_map]
    cases m.find? l <;> simp [h]
  · have hbeq : (l == k) = false := by simpa using h
    simp [find?, List.lookup_append, List.lookup_cons, hbeq]

theorem find?_modify_self (k : κ) (f : α → α) (m : Keyed κ α) :
    (m.modify k f).find? k = (m.find? k).map f := by
  rw [modify, find?_map]
  simp

theorem find?_modify_of_ne {k l : κ} (h : l ≠ k) (f : α → α) (m : Keyed κ α) :
    (m.modify k f).find? l = m.find? l := by
  rw [modify, find?_map]
  cases m.find? l <;> simp [h]

theorem mem_keys_of_find? {m : Keyed κ α} {k : κ} {a : α} (h : m.find? k = some a) :
    k ∈ m.keys := by
  by_cases hmem : k ∈ m.keys
  · exact hmem
  · rw [find?_eq_none_iff.mpr hmem] at h
    cases h

theorem keys_erase (k : κ) (m : Keyed κ α) : (m.erase k).keys = m.keys.erase k := by
  rw [keys, keys, List.Nodup.erase_eq_filter m.nodup, List.filter_map]
  rfl

theorem size_erase {m : Keyed κ α} {k : κ} {a : α} (h : m.find? k = some a) :
    m.size = (m.erase k).size + 1 := by
  have hmem := mem_keys_of_find? h
  have hlength := List.length_erase_of_mem hmem
  have hpos := List.length_pos_of_mem hmem
  rw [← keys_erase, keys, keys, List.length_map, List.length_map] at hlength
  rw [keys, List.length_map] at hpos
  simp only [size]
  omega

theorem entries_insert_of_none {m : Keyed κ α} {k : κ} (h : m.find? k = none) (a : α) :
    (m.insert k a).entries = m.entries ++ [(k, a)] := by
  rw [insert, dif_neg (find?_eq_none_iff.mp h)]

theorem find?_foldl_insert (key : α → κ) (values : List α) (m : Keyed κ α) (k : κ) :
    (values.foldl (fun m a => m.insert (key a) a) m).find? k =
      (values.filter (fun a => key a == k)).getLast?.or (m.find? k) := by
  induction values generalizing m with
  | nil => rfl
  | cons a values ih =>
      rw [List.foldl_cons, ih, List.filter_cons]
      by_cases h : key a = k
      · subst h
        rw [find?_insert_self, if_pos (beq_self_eq_true _), List.getLast?_cons]
        cases (values.filter (fun b => key b == key a)).getLast? <;> rfl
      · have hbeq : ¬ (key a == k) = true := by simpa using h
        rw [find?_insert_of_ne (Ne.symm h), if_neg hbeq]

/-!
# What changes nothing
-/

theorem find?_of_mem {m : Keyed κ α} {k : κ} {a : α} (h : (k, a) ∈ m.entries) :
    m.find? k = some a := by
  rcases m with ⟨entries, hnodup⟩
  show entries.lookup k = some a
  change (k, a) ∈ entries at h
  induction entries with
  | nil => cases h
  | cons e rest ih =>
      rcases e with ⟨l, b⟩
      rw [List.map_cons, List.nodup_cons] at hnodup
      rcases hnodup with ⟨hfirst, hrest⟩
      rcases List.mem_cons.mp h with heq | hmem
      · cases heq
        exact List.lookup_cons_self
      · have hne : k ≠ l := by
          intro heq
          subst heq
          have hkey := List.mem_map_of_mem (f := Prod.fst) hmem
          exact hfirst hkey
        rw [List.lookup_cons, beq_false_of_ne hne]
        exact ih hrest hmem

theorem mem_entries_iff {m : Keyed κ α} {k : κ} {a : α} :
    (k, a) ∈ m.entries ↔ m.find? k = some a := by
  constructor
  · exact find?_of_mem
  · intro h
    rcases List.lookup_eq_some_iff.mp h with ⟨before, after, hentries, _⟩
    rw [hentries]
    exact List.mem_append_right before List.mem_cons_self

omit [DecidableEq κ] in
theorem ext_entries {m n : Keyed κ α} (h : m.entries = n.entries) : m = n := by
  cases m
  cases n
  cases h
  rfl

theorem map_eq_self {m : Keyed κ α} {f : κ → α → α}
    (h : ∀ k a, m.find? k = some a → f k a = a) : m.map f = m := by
  apply ext_entries
  show m.entries.map (fun e => (e.1, f e.1 e.2)) = m.entries
  calc m.entries.map (fun e => (e.1, f e.1 e.2)) = m.entries.map id := by
        apply List.map_congr_left
        intro e he
        exact congrArg (Prod.mk e.1) (h e.1 e.2 (find?_of_mem he))
    _ = m.entries := List.map_id m.entries

theorem insert_eq_self {m : Keyed κ α} {k : κ} {a : α} (h : m.find? k = some a) :
    m.insert k a = m := by
  have hmem := mem_keys_of_find? h
  unfold insert
  rw [dif_pos hmem]
  apply map_eq_self
  intro l b hb
  by_cases hl : l = k
  · subst hl
    rw [h] at hb
    rw [if_pos rfl]
    exact Option.some.inj hb
  · rw [if_neg hl]

theorem modify_eq_self {m : Keyed κ α} {k : κ} {f : α → α}
    (h : ∀ a, m.find? k = some a → f a = a) : m.modify k f = m := by
  apply map_eq_self
  intro l a ha
  by_cases hl : l = k
  · subst hl
    rw [if_pos rfl]
    exact h a ha
  · rw [if_neg hl]

theorem erase_eq_self {m : Keyed κ α} {k : κ} (h : m.find? k = none) : m.erase k = m := by
  apply ext_entries
  apply List.filter_eq_self.mpr
  intro e he
  apply bne_iff_ne.mpr
  intro heq
  rw [← heq, find?_of_mem he] at h
  cases h

end Keyed
end FleetBridge
