import FleetBridge.Proofs.StatusCache.History
import Mathlib.Data.List.Basic

/-!
# Purging

A purge looks twice.  It collects the keys of stale entries, lets go of the cache, and later
removes those whose entries are stale then.  Whatever happens in between, an entry that was
observed within its time to live stays.
-/

namespace FleetBridge
namespace StatusCache

variable {σ : Type}

theorem isStale_iff {now : Nat} {e : Entry σ} {c : StatusCache σ} :
    c.isStale now e = true ↔ c.ttl < now - e.lastObserved :=
  decide_eq_true_iff

theorem mem_staleKeys_iff {key : String} {now : Nat} {c : StatusCache σ} :
    key ∈ c.staleKeys now ↔
      ∃ e, c.entries.find? key = some e ∧ c.ttl < now - e.lastObserved := by
  rw [staleKeys, ← not_iff_not, ← Keyed.find?_eq_none_iff, Keyed.find?_filter]
  cases c.entries.find? key with
  | none => simp
  | some e => simp [Option.filter_some, isStale]

/-!
# Removing key by key
-/

def forget (key : String) (c : StatusCache σ) : StatusCache σ :=
  { c with entries := c.entries.erase key }

theorem isStale_forget (key : String) (now : Nat) (e : Entry σ) (c : StatusCache σ) :
    (c.forget key).isStale now e = c.isStale now e :=
  rfl

/-- Removes keys one by one and counts them.  Each entry is looked at once more when it is
the turn of its key, which has a time of its own. -/
def removeEach : List (String × Nat) → StatusCache σ → Nat × StatusCache σ
  | [], c => (0, c)
  | (key, now) :: rest, c =>
      if (c.entries.find? key).any (fun e => c.isStale now e) then
        ((removeEach rest (c.forget key)).1 + 1, (removeEach rest (c.forget key)).2)
      else removeEach rest c

theorem stale_or_live (key : String) (now : Nat) (c : StatusCache σ) :
    (∃ e, c.entries.find? key = some e ∧ c.isStale now e = true) ∨
      ∀ e, c.entries.find? key = some e → c.isStale now e = false := by
  cases hfind : c.entries.find? key with
  | none => exact Or.inr nofun
  | some e =>
      cases hstale : c.isStale now e with
      | true => exact Or.inl ⟨e, rfl, hstale⟩
      | false =>
          refine Or.inr ?_
          intro e' he'
          rw [← Option.some.inj he', hstale]

theorem removeEach_cons_of_stale {key : String} {now : Nat} {c : StatusCache σ} {e : Entry σ}
    (he : c.entries.find? key = some e) (hstale : c.isStale now e = true)
    (times : List (String × Nat)) :
    removeEach ((key, now) :: times) c =
      ((removeEach times (c.forget key)).1 + 1, (removeEach times (c.forget key)).2) := by
  rw [removeEach, he, Option.any_some, if_pos hstale]

theorem removeEach_cons_of_live {key : String} {now : Nat} {c : StatusCache σ}
    (hlive : ∀ e, c.entries.find? key = some e → c.isStale now e = false)
    (times : List (String × Nat)) :
    removeEach ((key, now) :: times) c = removeEach times c := by
  rw [removeEach]
  cases hfind : c.entries.find? key with
  | none => rfl
  | some e => rw [Option.any_some, hlive e hfind, if_neg Bool.false_ne_true]

/-- What a purge makes of a cache whose keys it looks at again at the given times. -/
structure Sweeps (times : List (String × Nat)) (before : StatusCache σ) (n : Nat)
    (after : StatusCache σ) : Prop where
  heartbeat : after.heartbeat = before.heartbeat
  ttl : after.ttl = before.ttl
  removed : ∀ {key now e}, (key, now) ∈ times → before.entries.find? key = some e →
    before.ttl < now - e.lastObserved → after.entries.find? key = none
  kept : ∀ {key}, (∀ {now e}, (key, now) ∈ times → before.entries.find? key = some e →
    ¬ before.ttl < now - e.lastObserved) →
    after.entries.find? key = before.entries.find? key
  count : before.entries.size = after.entries.size + n

theorem Sweeps.refl (c : StatusCache σ) : Sweeps [] c 0 c where
  heartbeat := rfl
  ttl := rfl
  removed := nofun
  kept := fun _ => rfl
  count := rfl

theorem Sweeps.cons_of_stale {key : String} {now : Nat} {times : List (String × Nat)}
    {c after : StatusCache σ} {n : Nat} {e : Entry σ} (he : c.entries.find? key = some e)
    (hstale : c.ttl < now - e.lastObserved) (h : Sweeps times (c.forget key) n after) :
    Sweeps ((key, now) :: times) c (n + 1) after where
  heartbeat := h.heartbeat
  ttl := h.ttl
  removed := by
    intro other time f hmem hf hother
    by_cases hkey : other = key
    · subst hkey
      have hgone : (c.forget other).entries.find? other = none := Keyed.find?_erase_self _ _
      rw [h.kept, hgone]
      intro _ _ _ hsome
      rw [hgone] at hsome
      cases hsome
    · have hrest := (List.mem_cons.mp hmem).resolve_left (fun heq => hkey (congrArg Prod.fst heq))
      exact h.removed hrest ((Keyed.find?_erase_of_ne hkey _).trans hf) hother
  kept := by
    intro other hother
    have hkey : other ≠ key := by
      rintro rfl
      exact hother List.mem_cons_self he hstale
    have hsame : (c.forget key).entries.find? other = c.entries.find? other :=
      Keyed.find?_erase_of_ne hkey _
    rw [h.kept, hsame]
    intro time f hmem hf
    rw [hsame] at hf
    exact hother (List.mem_cons_of_mem _ hmem) hf
  count := by
    have hsize := Keyed.size_erase he
    have hcount := h.count
    simp only [forget] at hcount
    omega

theorem Sweeps.cons_of_live {key : String} {now : Nat} {times : List (String × Nat)}
    {c after : StatusCache σ} {n : Nat}
    (hlive : ∀ e, c.entries.find? key = some e → ¬ c.ttl < now - e.lastObserved)
    (h : Sweeps times c n after) : Sweeps ((key, now) :: times) c n after where
  heartbeat := h.heartbeat
  ttl := h.ttl
  removed := by
    intro other time e hmem he hstale
    rcases List.mem_cons.mp hmem with heq | hrest
    · cases heq
      exact absurd hstale (hlive e he)
    · exact h.removed hrest he hstale
  kept := fun hother => h.kept (fun hmem => hother (List.mem_cons_of_mem _ hmem))
  count := h.count

theorem sweeps_removeEach (times : List (String × Nat)) (c : StatusCache σ) :
    Sweeps times c (removeEach times c).1 (removeEach times c).2 := by
  induction times generalizing c with
  | nil => exact Sweeps.refl c
  | cons entry times ih =>
      rcases entry with ⟨key, now⟩
      rcases stale_or_live key now c with ⟨e, he, hstale⟩ | hlive
      · rw [removeEach_cons_of_stale he hstale]
        exact Sweeps.cons_of_stale he (isStale_iff.mp hstale) (ih (c.forget key))
      · rw [removeEach_cons_of_live hlive]
        refine Sweeps.cons_of_live ?_ (ih c)
        intro e he
        rw [← isStale_iff, hlive e he]
        exact Bool.false_ne_true

/-!
# Removing all keys at once
-/

def outlasts (keys : List String) (now : Nat) (c : StatusCache σ) (key : String)
    (e : Entry σ) : Bool :=
  !(keys.contains key && c.isStale now e)

theorem filter_outlasts_cons {key : String} {now : Nat} {keys : List String}
    {c : StatusCache σ} {e : Entry σ} (he : c.entries.find? key = some e)
    (hstale : c.isStale now e = true) :
    c.entries.filter (c.outlasts (key :: keys) now) =
      (c.forget key).entries.filter ((c.forget key).outlasts keys now) := by
  apply Keyed.ext_entries
  show c.entries.entries.filter _ = (c.entries.entries.filter _).filter _
  rw [List.filter_filter]
  apply List.filter_congr
  intro entry hentry
  by_cases hkey : entry.1 = key
  · have hfind := Keyed.find?_of_mem hentry
    rw [hkey, he] at hfind
    simp [outlasts, hkey, ← Option.some.inj hfind, hstale]
  · have hother : (entry.1 != key) = true := bne_iff_ne.mpr hkey
    simp [outlasts, hkey, hother, isStale_forget]

theorem filter_outlasts_cons_of_live {key : String} {now : Nat} {keys : List String}
    {c : StatusCache σ}
    (hlive : ∀ e, c.entries.find? key = some e → c.isStale now e = false) :
    c.entries.filter (c.outlasts (key :: keys) now) =
      c.entries.filter (c.outlasts keys now) := by
  apply Keyed.ext_entries
  apply List.filter_congr
  intro entry hentry
  by_cases hkey : entry.1 = key
  · have hfind := Keyed.find?_of_mem hentry
    rw [hkey] at hfind
    simp [outlasts, hlive entry.2 hfind]
  · simp [outlasts, hkey]

theorem removeStale_eq (keys : List String) (now : Nat) (c : StatusCache σ) :
    c.removeStale keys now =
      (c.entries.size - (c.entries.filter (c.outlasts keys now)).size,
        { c with entries := c.entries.filter (c.outlasts keys now) }) :=
  rfl

theorem removeStale_nil (now : Nat) (c : StatusCache σ) : c.removeStale [] now = (0, c) := by
  have hall : c.entries.filter (c.outlasts [] now) = c.entries :=
    Keyed.ext_entries (List.filter_eq_self.mpr (fun _ _ => rfl))
  rw [removeStale_eq, hall, Nat.sub_self]

/-- Removing all keys at once is removing one after the other while the clock stands
still. -/
theorem removeStale_eq_removeEach (keys : List String) (now : Nat) (c : StatusCache σ) :
    c.removeStale keys now = removeEach (keys.map (fun key => (key, now))) c := by
  induction keys generalizing c with
  | nil => exact removeStale_nil now c
  | cons key keys ih =>
      rw [List.map_cons]
      rcases stale_or_live key now c with ⟨e, he, hstale⟩ | hlive
      · have hsize := Keyed.size_erase he
        have hle : ((c.forget key).entries.filter ((c.forget key).outlasts keys now)).size ≤
            (c.entries.erase key).size := List.length_filter_le _ _
        rw [removeEach_cons_of_stale he hstale, ← ih, removeStale_eq, removeStale_eq,
          filter_outlasts_cons he hstale]
        refine Prod.ext ?_ rfl
        simp only [forget] at hle ⊢
        omega
      · rw [removeEach_cons_of_live hlive, ← ih, removeStale_eq, removeStale_eq,
          filter_outlasts_cons_of_live hlive]

theorem sweeps_removeStale (keys : List String) (now : Nat) (c : StatusCache σ) :
    Sweeps (keys.map (fun key => (key, now))) c (c.removeStale keys now).1
      (c.removeStale keys now).2 := by
  rw [removeStale_eq_removeEach]
  exact sweeps_removeEach _ c

/-!
# Nothing in between
-/

theorem filter_outlasts_staleKeys (now : Nat) (c : StatusCache σ) :
    c.entries.filter (c.outlasts (c.staleKeys now) now) =
      c.entries.filter (fun _ e => !c.isStale now e) := by
  apply Keyed.ext_entries
  apply List.filter_congr
  intro entry hentry
  cases hstale : c.isStale now entry.2 with
  | false => simp [outlasts, hstale]
  | true =>
      have hmem : entry.1 ∈ c.staleKeys now :=
        mem_staleKeys_iff.mpr ⟨entry.2, Keyed.find?_of_mem hentry, isStale_iff.mp hstale⟩
      simp [outlasts, hstale, hmem]

theorem find?_purge (now : Nat) (c : StatusCache σ) (key : String) :
    (c.purge now).2.entries.find? key =
      (c.entries.find? key).filter (fun e => !c.isStale now e) := by
  rw [purge, removeStale_eq, filter_outlasts_staleKeys, Keyed.find?_filter]

theorem fst_purge (now : Nat) (c : StatusCache σ) :
    (c.purge now).1 = (c.staleKeys now).length := by
  rw [purge, removeStale_eq, filter_outlasts_staleKeys]
  have hlength := List.length_eq_length_filter_add (fun e => c.isStale now e.2)
    (l := c.entries.entries)
  simp only [staleKeys, Keyed.keys, Keyed.filter, Keyed.size, List.length_map] at hlength ⊢
  omega

theorem staleKeys_purge (now : Nat) (c : StatusCache σ) :
    (c.purge now).2.staleKeys now = [] := by
  rw [List.eq_nil_iff_forall_not_mem]
  intro key hmem
  rcases mem_staleKeys_iff.mp hmem with ⟨e, he, hstale⟩
  rw [find?_purge, Option.filter_eq_some_iff] at he
  rw [show (c.purge now).2.ttl = c.ttl from rfl, ← isStale_iff] at hstale
  simp [hstale] at he

/-- What a purge does when nothing happens while it lets go of the cache. -/
structure PurgesAtOnce (c : StatusCache σ) (now : Nat) : Prop where
  absent : ∀ {key}, c.entries.find? key = none → (c.purge now).2.entries.find? key = none
  removed : ∀ {key e}, c.entries.find? key = some e → c.ttl < now - e.lastObserved →
    (c.purge now).2.entries.find? key = none
  kept : ∀ {key e}, c.entries.find? key = some e → ¬ c.ttl < now - e.lastObserved →
    (c.purge now).2.entries.find? key = some e
  count : (c.purge now).1 = (c.staleKeys now).length
  again : (c.purge now).2.purge now = (0, (c.purge now).2)

theorem purgesAtOnce (c : StatusCache σ) (now : Nat) : PurgesAtOnce c now where
  absent h := by
    rw [find?_purge, h]
    rfl
  removed he hstale := by
    rw [find?_purge, he, Option.filter_some, isStale_iff.mpr hstale]
    rfl
  kept he hlive := by
    rw [← isStale_iff, Bool.not_eq_true] at hlive
    rw [find?_purge, he, Option.filter_some, hlive]
    rfl
  count := fst_purge now c
  again := by
    rw [purge, staleKeys_purge, removeStale_nil]

/-!
# Live entries
-/

def Call.observed : Call σ → Option String
  | .check key _ _ => some key
  | .update key _ => some key
  | .purge => none
  | .sweep _ => none

section

variable [DecidableEq σ]

theorem lastObserved_of_observed {call : Call σ} {key : String}
    (h : call.observed = some key) {now : Nat} {c : StatusCache σ} {e : Entry σ}
    (he : (c.step now call).entries.find? key = some e) : e.lastObserved = now := by
  have hupdate : ∀ status, (c.update key status now).entries.find? key = some e →
      e.lastObserved = now := by
    intro status hfind
    rw [find?_update, if_pos rfl] at hfind
    rw [← Option.some.inj hfind]
  cases call with
  | check other status agreed =>
      cases h
      simp only [step, observe_eq] at he
      split at he
      · exact hupdate status he
      · rw [find?_refresh, if_pos rfl] at he
        rcases Option.map_eq_some_iff.mp he with ⟨old, _, rfl⟩
        rfl
  | update other status =>
      cases h
      exact hupdate status he
  | purge => cases h
  | sweep keys => cases h

def IsSeen (key : String) (time : Nat) (c : StatusCache σ) : Prop :=
  ∃ e, c.entries.find? key = some e ∧ time ≤ e.lastObserved

theorem IsSeen.step {key : String} {time now : Nat} {c : StatusCache σ}
    (h : c.IsSeen key time) (htime : time ≤ now) (hlive : now - time ≤ c.ttl)
    (call : Call σ) : (c.step now call).IsSeen key time := by
  rcases h with ⟨e, he, hseen⟩
  have htransit := transit key now call c
  rw [he] at htransit
  unfold IsSeen
  generalize (c.step now call).entries.find? key = after at htransit
  generalize c.passes? key now call = passed at htransit
  cases htransit with
  | passed status => exact ⟨_, rfl, htime⟩
  | kept => exact ⟨e, rfl, hseen⟩
  | seen => exact ⟨_, rfl, htime⟩
  | removed _ hstale => omega

theorem IsSeen.run {key : String} {time finish : Nat} {c : StatusCache σ}
    (h : c.IsSeen key time) (hlive : finish - time ≤ c.ttl) {calls : List (Nat × Call σ)}
    (hcalls : ∀ e ∈ calls, time ≤ e.1 ∧ e.1 ≤ finish) : (c.run calls).IsSeen key time := by
  induction calls generalizing c with
  | nil => exact h
  | cons e calls ih =>
      rw [List.forall_mem_cons] at hcalls
      rcases hcalls with ⟨⟨htime, hfinish⟩, hrest⟩
      have hstep := h.step htime (by omega) e.2
      refine ih hstep ?_ hrest
      rw [(settings_step e.1 e.2 c).2]
      exact hlive

/-- What a purge does that collects its keys at `start` and removes them at `finish`, when
`between` happens in the meantime. -/
structure PurgesAround (c : StatusCache σ) (start : Nat) (between : List (Nat × Call σ))
    (finish : Nat) : Prop where
  collected : ∀ {key}, key ∈ c.staleKeys start ↔
    ∃ e, c.entries.find? key = some e ∧ c.ttl < start - e.lastObserved
  sweeps : Sweeps ((c.staleKeys start).map (fun key => (key, finish))) (c.run between)
    ((c.run between).removeStale (c.staleKeys start) finish).1
    ((c.run between).removeStale (c.staleKeys start) finish).2
  oneByOne : (c.run between).removeStale (c.staleKeys start) finish =
    removeEach ((c.staleKeys start).map (fun key => (key, finish))) (c.run between)
  /-- The same holds of a removal that takes time, with a look at the clock for each key. -/
  sweepsEach : ∀ clock : String → Nat,
    Sweeps ((c.staleKeys start).map (fun key => (key, clock key))) (c.run between)
      (removeEach ((c.staleKeys start).map (fun key => (key, clock key))) (c.run between)).1
      (removeEach ((c.staleKeys start).map (fun key => (key, clock key))) (c.run between)).2
  /-- What was observed in the meantime, within the time to live, stays as it is. -/
  live : ∀ {before now call rest key}, between = before ++ (now, call) :: rest →
    call.observed = some key →
    (c.run (before ++ [(now, call)])).entries.find? key ≠ none →
    (∀ e ∈ rest, now ≤ e.1 ∧ e.1 ≤ finish) → finish - now ≤ c.ttl →
    ∃ e, (c.run between).entries.find? key = some e ∧
      ((c.run between).removeStale (c.staleKeys start) finish).2.entries.find? key = some e

theorem purgesAround (c : StatusCache σ) (start : Nat) (between : List (Nat × Call σ))
    (finish : Nat) : PurgesAround c start between finish where
  collected := mem_staleKeys_iff
  sweeps := sweeps_removeStale _ finish _
  oneByOne := removeStale_eq_removeEach _ finish _
  sweepsEach := fun _ => sweeps_removeEach _ _
  live := by
    intro before now call rest key hbetween hobserved hpresent hclock hlive
    have hsplit : c.run between = (c.run (before ++ [(now, call)])).run rest := by
      rw [← run_append, hbetween, List.append_assoc]
      rfl
    have hseen : (c.run (before ++ [(now, call)])).IsSeen key now := by
      rcases Option.ne_none_iff_exists'.mp hpresent with ⟨e, he⟩
      refine ⟨e, he, ?_⟩
      rw [run_append_singleton] at he
      exact Nat.le_of_eq (lastObserved_of_observed hobserved he).symm
    have hlater : (c.run between).IsSeen key now := by
      rw [hsplit]
      refine hseen.run ?_ hclock
      rw [(settings_run _ c).2]
      exact hlive
    rcases hlater with ⟨e, he, htime⟩
    refine ⟨e, he, ?_⟩
    rw [(sweeps_removeStale _ finish _).kept, he]
    intro time f hmem hf
    rw [he] at hf
    cases hf
    rcases List.mem_map.mp hmem with ⟨_, _, heq⟩
    cases heq
    rw [(settings_run between c).2]
    omega

theorem purges (c : StatusCache σ) :
    (∀ start between finish, PurgesAround c start between finish) ∧
      ∀ now, PurgesAtOnce c now :=
  ⟨purgesAround c, purgesAtOnce c⟩

/-- Stale when the keys were collected, observed before they were removed. -/
example :
    let c := (of 10 300 : StatusCache Bool).run [(0, .update "agv-01" true)]
    c.staleKeys 301 = ["agv-01"] ∧
      ((c.run [(301, .check "agv-01" true true)]).removeStale ["agv-01"] 601).1 = 0 ∧
      (c.removeStale ["agv-01"] 601).1 = 1 := by
  decide

end

end StatusCache
end FleetBridge
