import FleetBridge.Proofs.StatusCache.History

/-!
# Observing statuses

An observation is answered by what was passed on in the life of its entry, and it does what
asking first and updating then would do, but for the time at which the entry was observed.
-/

namespace FleetBridge
namespace StatusCache

variable {σ : Type} [DecidableEq σ]

theorem check_eq (key : String) (status : σ) (now : Nat) (c : StatusCache σ) :
    c.check key status now =
      if c.isDue key status now then (true, c.update key status now)
      else (false, c.refresh key now) := by
  simp only [check_eq_observe, observe_eq, and_true]

theorem fst_check (key : String) (status : σ) (now : Nat) (c : StatusCache σ) :
    (c.check key status now).1 = c.isDue key status now := by
  rw [check_eq]
  cases c.isDue key status now <;> rfl

/-!
# Asking first
-/

def checkThenUpdate (key : String) (status : σ) (now : Nat) (c : StatusCache σ) :
    Bool × StatusCache σ :=
  if c.isDue key status now then (true, c.update key status now) else (false, c)

omit [DecidableEq σ] in
/-- What is in an entry besides the time of the last observation. -/
def Entry.said (e : Entry σ) : σ × Nat × UInt64 :=
  (e.status, e.lastSent, e.updates)

omit [DecidableEq σ] in
/-- Two caches that differ in nothing but the times of the last observations. -/
structure Alike (c d : StatusCache σ) : Prop where
  heartbeat : c.heartbeat = d.heartbeat
  ttl : c.ttl = d.ttl
  said : ∀ key, (c.entries.find? key).map Entry.said = (d.entries.find? key).map Entry.said

section

omit [DecidableEq σ]

variable {c d : StatusCache σ}

theorem Alike.refl (c : StatusCache σ) : Alike c c :=
  ⟨rfl, rfl, fun _ => rfl⟩

theorem Alike.sent? (h : Alike c d) (key : String) : c.sent? key = d.sent? key := by
  have hsaid := congrArg (Option.map (fun s : σ × Nat × UInt64 => (s.1, s.2.1))) (h.said key)
  rw [Option.map_map, Option.map_map] at hsaid
  exact hsaid

theorem Alike.updates? (h : Alike c d) (key : String) : c.updates? key = d.updates? key := by
  have hsaid := congrArg (Option.map (fun s : σ × Nat × UInt64 => s.2.2)) (h.said key)
  rw [Option.map_map, Option.map_map] at hsaid
  exact hsaid

theorem Alike.update (h : Alike c d) (key : String) (status : σ) (now : Nat) :
    Alike (c.update key status now) (d.update key status now) where
  heartbeat := h.heartbeat
  ttl := h.ttl
  said := by
    intro other
    rw [find?_update, find?_update, h.updates? key]
    split
    · rfl
    · exact h.said other

theorem Alike.refresh (h : Alike c d) (key : String) (now : Nat) :
    Alike (c.refresh key now) d where
  heartbeat := h.heartbeat
  ttl := h.ttl
  said := by
    intro other
    rw [find?_refresh]
    split
    · subst other
      rw [Option.map_map]
      exact h.said key
    · exact h.said other

end

theorem Alike.isDue {c d : StatusCache σ} (h : Alike c d) (key : String) (status : σ)
    (now : Nat) : c.isDue key status now = d.isDue key status now := by
  rw [Bool.eq_iff_iff, isDue_eq_true_iff, isDue_eq_true_iff, h.sent? key, h.heartbeat]

theorem Alike.check {c d : StatusCache σ} (h : Alike c d) (key : String) (status : σ)
    (now : Nat) :
    (c.check key status now).1 = (d.checkThenUpdate key status now).1 ∧
      Alike (c.check key status now).2 (d.checkThenUpdate key status now).2 := by
  simp only [check_eq, checkThenUpdate, h.isDue key status now]
  split
  · exact ⟨rfl, h.update key status now⟩
  · exact ⟨rfl, h.refresh key now⟩

def Call.isRemoval : Call σ → Bool
  | .check _ _ _ => false
  | .update _ _ => false
  | .purge => true
  | .sweep _ => true

/-- A call by somebody who asks first whenever a status is observed. -/
def stepApart (now : Nat) (call : Call σ) (c : StatusCache σ) : StatusCache σ :=
  match call with
  | .check key status agreed => if agreed then (c.checkThenUpdate key status now).2 else c
  | .update key status => c.update key status now
  | .purge => (c.purge now).2
  | .sweep keys => (c.removeStale keys now).2

def runApart (calls : List (Nat × Call σ)) (c : StatusCache σ) : StatusCache σ :=
  calls.foldl (fun c e => c.stepApart e.1 e.2) c

theorem Alike.step {c d : StatusCache σ} (h : Alike c d) (now : Nat) {call : Call σ}
    (hcall : call.isRemoval = false) : Alike (c.step now call) (d.stepApart now call) := by
  cases call with
  | check key status agreed =>
      cases agreed with
      | true => exact (h.check key status now).2
      | false =>
          simp only [StatusCache.step, observe_eq, stepApart, Bool.false_eq_true, and_false,
            if_false]
          exact h.refresh key now
  | update key status => exact h.update key status now
  | purge => cases hcall
  | sweep keys => cases hcall

theorem Alike.run {c d : StatusCache σ} (h : Alike c d) {calls : List (Nat × Call σ)}
    (hcalls : ∀ e ∈ calls, e.2.isRemoval = false) :
    Alike (c.run calls) (d.runApart calls) := by
  induction calls generalizing c d with
  | nil => exact h
  | cons e calls ih =>
      rw [List.forall_mem_cons] at hcalls
      exact ih (h.step e.1 hcalls.1) hcalls.2

theorem get?_check (key : String) (status : σ) (now : Nat) (c : StatusCache σ) :
    (c.check key status now).2.get? key = some status := by
  rw [check_eq, get?_eq_map_sent?]
  cases hdue : c.isDue key status now with
  | true =>
      rw [if_pos rfl, sent?_update_self]
      rfl
  | false =>
      rw [if_neg Bool.false_ne_true, sent?_refresh]
      -- What is not due has been passed on before.
      rw [← Bool.not_eq_true, isDue_eq_true_iff, not_or] at hdue
      rcases Option.ne_none_iff_exists'.mp hdue.1 with ⟨⟨last, time⟩, hsent⟩
      have hsame : last = status := by
        by_cases hsame : last = status
        · exact hsame
        · exact absurd ⟨last, time, hsent, Or.inl hsame⟩ hdue.2
      rw [hsent, hsame]
      rfl

/-- Observing a status is asking first and updating then, but that a status that is not
passed on renews the entry. -/
structure Observes (c : StatusCache σ) (key : String) (status : σ) (now : Nat) : Prop where
  answer : (c.check key status now).1 = (c.checkThenUpdate key status now).1
  alike : Alike (c.check key status now).2 (c.checkThenUpdate key status now).2
  get : (c.check key status now).2.get? key = some status
  passed : (c.check key status now).1 = true →
    (c.check key status now).2 = (c.checkThenUpdate key status now).2
  renewed : (c.check key status now).1 = false →
    (c.checkThenUpdate key status now).2 = c ∧
      ∀ other, (c.check key status now).2.entries.find? other =
        if other = key then
          (c.entries.find? key).map (fun e => { e with lastObserved := now })
        else c.entries.find? other

theorem observes (c : StatusCache σ) (key : String) (status : σ) (now : Nat) :
    Observes c key status now where
  answer := ((Alike.refl c).check key status now).1
  alike := ((Alike.refl c).check key status now).2
  get := get?_check key status now c
  passed := by
    simp only [check_eq, checkThenUpdate]
    cases c.isDue key status now with
    | true => exact fun _ => rfl
    | false => exact fun h => absurd h Bool.false_ne_true
  renewed := by
    simp only [check_eq, checkThenUpdate]
    cases c.isDue key status now with
    | true => exact fun h => absurd h.symm Bool.false_ne_true
    | false => exact fun _ => ⟨rfl, find?_refresh key now c⟩

/-!
# What was passed on
-/

section

variable {c : StatusCache σ} {key : String} (habsent : c.entries.find? key = none)
  (calls : List (Nat × Call σ))

include habsent

theorem sent?_run_eq_some_iff {last : σ} {time : Nat} :
    (c.run calls).sent? key = some (last, time) ↔
      ∃ sent, Recalls c calls key sent ∧ sent.getLast? = some (last, time) := by
  rw [sent?, Option.map_eq_some_iff]
  constructor
  · intro h
    rcases h with ⟨e, he, heq⟩
    rcases exists_recalls habsent he with ⟨sent, hrecalls, hbooks⟩
    exact ⟨sent, hrecalls, hbooks.last.trans (congrArg some heq)⟩
  · intro h
    rcases h with ⟨sent, hrecalls, hlast⟩
    rcases hrecalls.exists_entry habsent with ⟨e, he, hbooks⟩
    exact ⟨e, he, Option.some.inj (hbooks.last.symm.trans hlast)⟩

theorem get?_run_eq_some_iff {last : σ} :
    (c.run calls).get? key = some last ↔
      ∃ sent time, Recalls c calls key sent ∧ sent.getLast? = some (last, time) := by
  rw [get?_eq_map_sent?, Option.map_eq_some_iff]
  constructor
  · intro h
    rcases h with ⟨⟨_, time⟩, hsent, rfl⟩
    rcases (sent?_run_eq_some_iff habsent calls).mp hsent with ⟨sent, hrecalls, hlast⟩
    exact ⟨sent, time, hrecalls, hlast⟩
  · intro h
    rcases h with ⟨sent, time, hsent⟩
    exact ⟨(last, time), (sent?_run_eq_some_iff habsent calls).mpr ⟨sent, hsent⟩, rfl⟩

theorem isDue_run_iff (status : σ) (now : Nat) :
    (c.run calls).isDue key status now = true ↔
      (c.run calls).get? key = none ∨
        ∃ sent last time, Recalls c calls key sent ∧ sent.getLast? = some (last, time) ∧
          (last ≠ status ∨ time + c.heartbeat < now) := by
  rw [isDue_eq_true_iff, get?_eq_map_sent?, Option.map_eq_none_iff, (settings_run calls c).1]
  apply or_congr_right
  constructor
  · intro h
    rcases h with ⟨last, time, hsent, hdue⟩
    rcases (sent?_run_eq_some_iff habsent calls).mp hsent with ⟨sent, hrecalls, hlast⟩
    exact ⟨sent, last, time, hrecalls, hlast, hdue.imp_right Nat.lt_sub_iff_add_lt'.mp⟩
  · intro h
    rcases h with ⟨sent, last, time, hrecalls, hlast, hdue⟩
    refine ⟨last, time, ?_, hdue.imp_right Nat.lt_sub_iff_add_lt'.mpr⟩
    exact (sent?_run_eq_some_iff habsent calls).mpr ⟨sent, hrecalls, hlast⟩

theorem updates?_run_eq_some_iff {n : UInt64} :
    (c.run calls).updates? key = some n ↔
      ∃ sent, Recalls c calls key sent ∧ n = UInt64.ofNat sent.length := by
  rw [updates?, Option.map_eq_some_iff]
  constructor
  · intro h
    rcases h with ⟨e, he, heq⟩
    rcases exists_recalls habsent he with ⟨sent, hrecalls, hbooks⟩
    exact ⟨sent, hrecalls, heq.symm.trans hbooks.count⟩
  · intro h
    rcases h with ⟨sent, hrecalls, hcount⟩
    rcases hrecalls.exists_entry habsent with ⟨e, he, hbooks⟩
    exact ⟨e, he, hbooks.count.trans hcount.symm⟩

/-- Until it comes round, the counter tells how many statuses were passed on. -/
theorem toNat_updates?_run {sent : List (σ × Nat)} (hrecalls : Recalls c calls key sent)
    (hfew : sent.length < UInt64.size) :
    ((c.run calls).updates? key).map UInt64.toNat = some sent.length := by
  rw [(updates?_run_eq_some_iff habsent calls).mpr ⟨sent, hrecalls, rfl⟩, Option.map_some,
    UInt64.toNat_ofNat_of_lt' hfew]

end

/-- What a cache says after a history is what was passed on in it, and whether the next
observation is passed on is settled by that. -/
structure Specified (fresh : StatusCache σ) (calls : List (Nat × Call σ)) : Prop where
  check : ∀ key status now, ((fresh.run calls).check key status now).1 = true ↔
    (fresh.run calls).get? key = none ∨
      ∃ sent last time, Recalls fresh calls key sent ∧ sent.getLast? = some (last, time) ∧
        (last ≠ status ∨ time + fresh.heartbeat < now)
  get : ∀ key last, (fresh.run calls).get? key = some last ↔
    ∃ sent time, Recalls fresh calls key sent ∧ sent.getLast? = some (last, time)
  count : ∀ key n, (fresh.run calls).updates? key = some n ↔
    ∃ sent, Recalls fresh calls key sent ∧ n = UInt64.ofNat sent.length
  /-- The counter is 64 bits wide; up to there it is exact. -/
  exactly : ∀ key sent, Recalls fresh calls key sent → sent.length < UInt64.size →
    ((fresh.run calls).updates? key).map UInt64.toNat = some sent.length
  observes : ∀ key status now, Observes (fresh.run calls) key status now
  /-- Until entries are removed, a cache that is always asked first says the same. -/
  apart : (∀ e ∈ calls, e.2.isRemoval = false) →
    Alike (fresh.run calls) (fresh.runApart calls)

theorem specified_run (heartbeat ttl : Nat) (calls : List (Nat × Call σ)) :
    Specified (of heartbeat ttl) calls := by
  have habsent : ∀ key, (of heartbeat ttl : StatusCache σ).entries.find? key = none :=
    fun _ => rfl
  constructor
  · intro key status now
    rw [fst_check]
    exact isDue_run_iff (habsent key) calls status now
  · intro key last
    exact get?_run_eq_some_iff (habsent key) calls
  · intro key n
    exact updates?_run_eq_some_iff (habsent key) calls
  · intro key sent
    exact toNat_updates?_run (habsent key) calls
  · exact observes _
  · exact (Alike.refl _).run

/-- An observation within the heartbeat is not counted. -/
example :
    let c := (of 10 300 : StatusCache Bool).run
      [(0, .check "agv-01" true true), (5, .check "agv-01" true true),
        (11, .check "agv-01" true true)]
    c.updates? "agv-01" = some 2 := by
  decide

end StatusCache
end FleetBridge
