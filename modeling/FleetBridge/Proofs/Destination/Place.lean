import FleetBridge.Destination
import Mathlib.Data.List.Basic
import Mathlib.Data.List.Infix

/-!
# Places in a text

A place is a brace that opens and a name behind it.  As no other brace opens within it, two
places in a text never overlap, and what a text becomes when its places are filled does not
depend on where one begins to look.
-/

namespace FleetBridge
namespace Destination

/-- A brace that opens, and a name. -/
def IsPlace (s : List Char) : Prop :=
  ∃ name, s = '\x7b' :: name ∧ '\x7b' ∉ name

namespace IsPlace

variable {a b : List Char}

theorem ne_nil (ha : IsPlace a) : a ≠ [] := by
  rcases ha with ⟨name, rfl, _⟩
  exact List.cons_ne_nil _ _

theorem eq_of_begins (ha : IsPlace a) {c : Char} {s : List Char} (h : a <+: c :: s) :
    c = '\x7b' := by
  rcases ha with ⟨name, rfl, _⟩
  exact (List.cons_prefix_cons.mp h).1.symm

/-- A place that begins in front of another one also ends in front of it. -/
theorem begins_append_iff (ha : IsPlace a) (hb : IsPlace b) {u : List Char} (hu : u ≠ [])
    (v : List Char) : a <+: u ++ (b ++ v) ↔ a <+: u := by
  constructor
  · intro h
    rcases List.prefix_or_prefix_of_prefix h (List.prefix_append u _) with hau | ⟨z, rfl⟩
    · exact hau
    · -- What is left of the first place would have to begin with the brace of the second.
      rw [List.prefix_append_right_inj] at h
      rcases List.exists_cons_of_ne_nil hu with ⟨c, u, rfl⟩
      rcases ha with ⟨name, heq, hname⟩
      rcases hb with ⟨name', rfl, _⟩
      cases z with
      | nil => rw [List.append_nil]
      | cons d z =>
          rw [List.cons_append, List.cons_prefix_cons] at h
          rw [List.cons_append, List.cons.injEq] at heq
          rw [← heq.2, h.1] at hname
          exact absurd (List.mem_append_right u List.mem_cons_self) hname
  · intro h
    exact h.trans (List.prefix_append u _)

end IsPlace

/-- Two places of which neither begins with the other. -/
structure Apart (a b : List Char) : Prop where
  left : IsPlace a
  right : IsPlace b
  left_not_begins : ¬ a <+: b
  right_not_begins : ¬ b <+: a

theorem Apart.symm {a b : List Char} (h : Apart a b) : Apart b a :=
  ⟨h.right, h.left, h.right_not_begins, h.left_not_begins⟩

/-!
# How often a place occurs
-/

def occurrences (a s : List Char) : Nat :=
  s.tails.countP (fun t => a.isPrefixOf t)

section Occurrences

variable {a b : List Char}

theorem occurrences_nil (ha : IsPlace a) : occurrences a [] = 0 := by
  rcases ha with ⟨name, rfl, _⟩
  rfl

theorem occurrences_cons_of_begins {c : Char} {s : List Char} (h : a <+: c :: s) :
    occurrences a (c :: s) = occurrences a s + 1 := by
  rw [occurrences, List.tails_cons, List.countP_cons_of_pos (List.isPrefixOf_iff_prefix.mpr h)]
  rfl

theorem occurrences_cons_of_not {c : Char} {s : List Char} (h : ¬ a <+: c :: s) :
    occurrences a (c :: s) = occurrences a s := by
  rw [occurrences, List.tails_cons,
    List.countP_cons_of_neg (mt List.isPrefixOf_iff_prefix.mp h)]
  rfl

theorem occurrences_append_of_not_mem (ha : IsPlace a) {w : List Char} (hw : '\x7b' ∉ w)
    (s : List Char) : occurrences a (w ++ s) = occurrences a s := by
  induction w with
  | nil => rfl
  | cons c w ih =>
      rw [List.mem_cons, not_or] at hw
      rw [List.cons_append, occurrences_cons_of_not, ih hw.2]
      exact fun h => hw.1 (ha.eq_of_begins h).symm

theorem occurrences_append_self (ha : IsPlace a) (s : List Char) :
    occurrences a (a ++ s) = occurrences a s + 1 := by
  have hplace := ha
  have hbegins := List.prefix_append a s
  rcases ha with ⟨name, rfl, hname⟩
  rw [List.cons_append] at hbegins ⊢
  rw [occurrences_cons_of_begins hbegins, occurrences_append_of_not_mem hplace hname]

theorem Apart.not_begins_append (h : Apart a b) (s : List Char) : ¬ a <+: b ++ s := by
  intro hbegins
  rcases List.prefix_or_prefix_of_prefix hbegins (List.prefix_append b s) with hab | hba
  · exact h.left_not_begins hab
  · exact h.right_not_begins hba

theorem occurrences_append_other (h : Apart a b) (s : List Char) :
    occurrences a (b ++ s) = occurrences a s := by
  have hbegins := h.not_begins_append s
  rcases h.right with ⟨name, rfl, hname⟩
  rw [List.cons_append] at hbegins ⊢
  rw [occurrences_cons_of_not hbegins, occurrences_append_of_not_mem h.left hname]

theorem occurrences_append_place (ha : IsPlace a) (hb : IsPlace b) (u v : List Char) :
    occurrences a (u ++ (b ++ v)) = occurrences a u + occurrences a (b ++ v) := by
  induction u with
  | nil => rw [occurrences_nil ha, List.nil_append, Nat.zero_add]
  | cons c u ih =>
      have hbegins := ha.begins_append_iff hb (List.cons_ne_nil c u) v
      rw [List.cons_append] at hbegins ⊢
      by_cases hc : a <+: c :: u
      · rw [occurrences_cons_of_begins hc, occurrences_cons_of_begins (hbegins.mpr hc), ih]
        omega
      · rw [occurrences_cons_of_not hc, occurrences_cons_of_not (mt hbegins.mp hc), ih]

theorem occurrences_le_append (u s : List Char) : occurrences a s ≤ occurrences a (u ++ s) := by
  induction u with
  | nil => exact Nat.le_refl _
  | cons c u ih =>
      rw [List.cons_append]
      by_cases hc : a <+: c :: (u ++ s)
      · rw [occurrences_cons_of_begins hc]
        omega
      · rw [occurrences_cons_of_not hc]
        exact ih

end Occurrences

/-!
# Places filled at once
-/

/-- A text whose places are filled all at once, each with the value that a table has for it:
where a place begins its value stands, and elsewhere the character itself. -/
inductive Filled (table : List (List Char × List Char)) : List Char → List Char → Prop where
  | nil : Filled table [] []
  | place {a x s t : List Char} (hmem : (a, x) ∈ table) (hrest : Filled table s t) :
      Filled table (a ++ s) (x ++ t)
  | char {c : Char} {s t : List Char} (hnone : ∀ entry ∈ table, ¬ entry.1 <+: c :: s)
      (hrest : Filled table s t) : Filled table (c :: s) (c :: t)

/-- Each entry has a place, and no place begins with that of another entry. -/
structure IsTable (table : List (List Char × List Char)) : Prop where
  isPlace : ∀ entry ∈ table, IsPlace entry.1
  eq_of_begins : ∀ entry ∈ table, ∀ other ∈ table, entry.1 <+: other.1 → entry = other

theorem isTable_single {a : List Char} (ha : IsPlace a) (x : List Char) : IsTable [(a, x)] where
  isPlace := List.forall_mem_singleton.mpr ha
  eq_of_begins := by
    intro entry hentry other hother _
    rw [List.mem_singleton.mp hentry, List.mem_singleton.mp hother]

theorem Apart.isTable {a b : List Char} (h : Apart a b) (x y : List Char) :
    IsTable [(a, x), (b, y)] where
  isPlace := List.forall_mem_cons.mpr ⟨h.left, List.forall_mem_singleton.mpr h.right⟩
  eq_of_begins := by
    simp only [List.mem_cons, List.not_mem_nil, or_false]
    rintro _ (rfl | rfl) _ (rfl | rfl) hbegins
    · rfl
    · exact absurd hbegins h.left_not_begins
    · exact absurd hbegins h.right_not_begins
    · rfl

namespace Filled

variable {table : List (List Char × List Char)}

theorem unique (htable : IsTable table) {s t t' : List Char} (h : Filled table s t)
    (h' : Filled table s t') : t' = t := by
  induction h generalizing t' with
  | nil =>
      generalize hs : ([] : List Char) = s at h'
      cases h' with
      | nil => rfl
      | place hmem _ =>
          exact absurd (List.append_eq_nil_iff.mp hs.symm).1 (htable.isPlace _ hmem).ne_nil
      | char _ _ => cases hs
  | @place a x s t hmem _ ih =>
      generalize hs : a ++ s = text at h'
      cases h' with
      | nil => exact absurd (List.append_eq_nil_iff.mp hs).1 (htable.isPlace _ hmem).ne_nil
      | @place b y r _ hmem' hrest' =>
          -- Of two places that begin at one position, one begins with the other.
          have heq : (a, x) = (b, y) := by
            rcases List.prefix_or_prefix_of_prefix (List.prefix_append a s)
              (hs ▸ List.prefix_append b r) with hab | hba
            · exact htable.eq_of_begins _ hmem _ hmem' hab
            · exact (htable.eq_of_begins _ hmem' _ hmem hba).symm
          cases heq
          cases List.append_cancel_left hs
          rw [ih hrest']
      | char hnone _ => exact absurd (hs ▸ List.prefix_append a s) (hnone _ hmem)
  | @char c s t hnone _ ih =>
      generalize hs : c :: s = text at h'
      cases h' with
      | nil => cases hs
      | place hmem _ => exact absurd (hs ▸ List.prefix_append _ _) (hnone _ hmem)
      | char _ hrest' =>
          cases hs
          rw [ih hrest']

theorem exists_filled (hplaces : ∀ entry ∈ table, IsPlace entry.1) (s : List Char) :
    ∃ t, Filled table s t := by
  -- By length, since the text behind a place is shorter by the whole of the place.
  induction hlength : s.length using Nat.strong_induction_on generalizing s with
  | _ n ih =>
      cases s with
      | nil => exact ⟨[], .nil⟩
      | cons c s =>
          by_cases hsome : ∃ entry ∈ table, entry.1 <+: c :: s
          · rcases hsome with ⟨⟨a, x⟩, hmem, rest, hrest⟩
            have hpos := List.length_pos_of_ne_nil (hplaces _ hmem).ne_nil
            have hshorter : rest.length < n := by
              rw [← hlength, ← hrest, List.length_append]
              omega
            rcases ih _ hshorter rest rfl with ⟨t, ht⟩
            rw [← hrest]
            exact ⟨x ++ t, .place hmem ht⟩
          · have hshorter : s.length < n := by
              rw [← hlength, List.length_cons]
              omega
            rcases ih _ hshorter s rfl with ⟨t, ht⟩
            exact ⟨c :: t, .char (fun entry hmem h => hsome ⟨entry, hmem, h⟩) ht⟩

theorem append_of_not_mem (hplaces : ∀ entry ∈ table, IsPlace entry.1) {w : List Char}
    (hw : '\x7b' ∉ w) {s t : List Char} (h : Filled table s t) :
    Filled table (w ++ s) (w ++ t) := by
  induction w with
  | nil => exact h
  | cons c w ih =>
      rw [List.mem_cons, not_or] at hw
      refine .char ?_ (ih hw.2)
      intro entry hmem hbegins
      exact hw.1 ((hplaces entry hmem).eq_of_begins hbegins).symm

theorem append_place (htable : IsTable table) {a x : List Char} (hmem : (a, x) ∈ table)
    {u t v t' : List Char} (h : Filled table u t) (h' : Filled table v t') :
    Filled table (u ++ (a ++ v)) (t ++ (x ++ t')) := by
  induction h with
  | nil =>
      rw [List.nil_append, List.nil_append]
      exact .place hmem h'
  | place hother _ ih =>
      rw [List.append_assoc, List.append_assoc]
      exact .place hother ih
  | @char c s _ hnone _ ih =>
      refine .char ?_ ih
      intro entry hentry hbegins
      have hends := (htable.isPlace entry hentry).begins_append_iff (htable.isPlace _ hmem)
        (List.cons_ne_nil c s) v
      exact hnone entry hentry (hends.mp hbegins)

end Filled

/-!
# One place replaced
-/

theorem filled_drop_replaceFrom {a : List Char} (ha : a ≠ []) (x s : List Char)
    (skipped : Nat) : Filled [(a, x)] (s.drop skipped) (replaceFrom a x skipped s) := by
  induction s generalizing skipped with
  | nil =>
      rw [List.drop_nil]
      exact .nil
  | cons c s ih =>
      cases skipped with
      | succ skipped => exact ih skipped
      | zero =>
          rw [List.drop_zero, replaceFrom]
          by_cases hbegins : a.isPrefixOf (c :: s) = true
          · rw [if_pos hbegins]
            rcases List.isPrefixOf_iff_prefix.mp hbegins with ⟨rest, hrest⟩
            have hdrop : s.drop (a.length - 1) = rest := by
              rcases List.exists_cons_of_ne_nil ha with ⟨d, a, rfl⟩
              rw [List.cons_append, List.cons.injEq] at hrest
              rw [← hrest.2, List.length_cons, Nat.add_sub_cancel, List.drop_left]
            have hfilled := ih (a.length - 1)
            rw [hdrop] at hfilled
            rw [← hrest]
            exact .place (List.mem_singleton.mpr rfl) hfilled
          · rw [if_neg hbegins]
            refine .char ?_ (ih 0)
            intro entry hmem
            rw [List.mem_singleton.mp hmem]
            exact mt List.isPrefixOf_iff_prefix.mpr hbegins

theorem filled_replace {a : List Char} (ha : a ≠ []) (x s : List Char) :
    Filled [(a, x)] s (replace a x s) :=
  filled_drop_replaceFrom ha x s 0

section Replace

variable {a b x : List Char}

theorem replace_nil : replace a x [] = [] :=
  rfl

theorem replace_cons_of_not {c : Char} {s : List Char} (h : ¬ a <+: c :: s) :
    replace a x (c :: s) = c :: replace a x s := by
  rw [replace, replaceFrom, if_neg (mt List.isPrefixOf_iff_prefix.mp h)]
  rfl

theorem replace_append_place (ha : IsPlace a) (u s : List Char) :
    replace a x (u ++ (a ++ s)) = replace a x u ++ (x ++ replace a x s) := by
  have htable := isTable_single ha x
  have hfilled := (filled_replace ha.ne_nil x u).append_place htable List.mem_cons_self
    (filled_replace ha.ne_nil x s)
  exact hfilled.unique htable (filled_replace ha.ne_nil x _)

theorem replace_append_self (ha : IsPlace a) (s : List Char) :
    replace a x (a ++ s) = x ++ replace a x s :=
  replace_append_place ha [] s

theorem replace_append_other (h : Apart a b) (s : List Char) :
    replace a x (b ++ s) = b ++ replace a x s := by
  have hbegins := h.not_begins_append s
  have hplaces := (isTable_single h.left x).isPlace
  have hs := filled_replace h.left.ne_nil x s
  rcases h.right with ⟨name, rfl, hname⟩
  have hkept : Filled [(a, x)] ('\x7b' :: (name ++ s)) ('\x7b' :: (name ++ replace a x s)) :=
    .char (List.forall_mem_singleton.mpr hbegins) (hs.append_of_not_mem hplaces hname)
  exact hkept.unique (isTable_single h.left x) (filled_replace h.left.ne_nil x _)

end Replace

end Destination
end FleetBridge
