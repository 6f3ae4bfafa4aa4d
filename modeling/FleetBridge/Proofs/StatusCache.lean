import FleetBridge.StatusCache
import FleetBridge.Proofs.Keyed

/-!
# What a cache has passed on

A cache of statuses is seen here through the status that it passed on last under each key,
and when.  Whether a status is due depends on that alone; only an update changes it, and a
purge can only forget it.
-/

namespace FleetBridge
namespace StatusCache

variable {σ : Type}

/-!
# Entries
-/

theorem find?_update (key : String) (status : σ) (now : Nat) (c : StatusCache σ)
    (other : String) :
    (c.update key status now).entries.find? other =
      if other = key then
        some { status, lastObserved := now, lastSent := now,
               updates := (c.updates? key).getD 0 + 1 }
      else c.entries.find? other := by
  split
  · subst other
    exact Keyed.find?_insert_self _ _ _
  · rename_i h
    exact Keyed.find?_insert_of_ne h _ _

theorem find?_refresh (key : String) (now : Nat) (c : StatusCache σ) (other : String) :
    (c.refresh key now).entries.find? other =
      if other = key then
        (c.entries.find? key).map (fun e => { e with lastObserved := now })
      else c.entries.find? other := by
  split
  · subst other
    exact Keyed.find?_modify_self _ _ _
  · rename_i h
    exact Keyed.find?_modify_of_ne h _ _

theorem find?_removeStale (keys : List String) (now : Nat) (c : StatusCache σ)
    (key : String) :
    (c.removeStale keys now).2.entries.find? key =
      (c.entries.find? key).filter (fun e => !(keys.contains key && c.isStale now e)) :=
  Keyed.find?_filter _ _ _

/-!
# Statuses
-/

/-- The status that was passed on last under a key, and when. -/
def sent? (key : String) (c : StatusCache σ) : Option (σ × Nat) :=
  (c.entries.find? key).map (fun e => (e.status, e.lastSent))

theorem get?_eq_map_sent? (key : String) (c : StatusCache σ) :
    c.get? key = (c.sent? key).map Prod.fst := by
  unfold get? sent?
  rw [Option.map_map]
  rfl

theorem sent?_update_self (key : String) (status : σ) (now : Nat) (c : StatusCache σ) :
    (c.update key status now).sent? key = some (status, now) := by
  simp only [sent?, find?_update, if_true]
  rfl

theorem sent?_update_of_ne {key other : String} (h : other ≠ key) (status : σ) (now : Nat)
    (c : StatusCache σ) : (c.update key status now).sent? other = c.sent? other := by
  simp only [sent?, find?_update, if_neg h]

theorem sent?_refresh (key : String) (now : Nat) (c : StatusCache σ) (other : String) :
    (c.refresh key now).sent? other = c.sent? other := by
  simp only [sent?, find?_refresh]
  split
  · subst other
    rw [Option.map_map]
    rfl
  · rfl

theorem sent?_of_sent?_purge {now : Nat} {c : StatusCache σ} {key : String} {sent : σ × Nat}
    (h : (c.purge now).2.sent? key = some sent) : c.sent? key = some sent := by
  simp only [sent?, purge, find?_removeStale] at h ⊢
  cases hfind : c.entries.find? key with
  | none =>
      rw [hfind] at h
      cases h
  | some e =>
      rw [hfind, Option.filter_some] at h
      split at h
      · exact h
      · cases h

variable [DecidableEq σ]

theorem isDue_eq_true_iff {key : String} {status : σ} {now : Nat} {c : StatusCache σ} :
    c.isDue key status now = true ↔
      c.sent? key = none ∨
        ∃ last time, c.sent? key = some (last, time) ∧
          (last ≠ status ∨ c.heartbeat < now - time) := by
  unfold isDue sent?
  cases c.entries.find? key with
  | none => simp
  | some e =>
      have hdue : c.isDueAfter status now e = true ↔
          e.status ≠ status ∨ c.heartbeat < now - e.lastSent := by
        simp [isDueAfter]
      constructor
      · intro h
        exact Or.inr ⟨e.status, e.lastSent, rfl, hdue.mp h⟩
      · intro h
        rcases h with h | ⟨last, time, h, hlast⟩
        · cases h
        · cases h
          exact hdue.mpr hlast

/-- A status that is due goes through if the one who is asked agrees; nobody is asked
about another. -/
theorem checkWith_eq {ρ : Type} (agree : ρ → Bool × ρ) (key : String) (status : σ) (now : Nat)
    (r : ρ) (c : StatusCache σ) :
    c.checkWith agree key status now r =
      match c.isDue key status now, (agree r).1 with
      | true, true => (true, (agree r).2, c.update key status now)
      | true, false => (false, (agree r).2, c.refresh key now)
      | false, _ => (false, r, c.refresh key now) := by
  unfold checkWith
  cases c.isDue key status now with
  | false => rfl
  | true => cases h : (agree r).1 <;> simp [h]

/-!
# Observing the same once more
-/

theorem isDue_refresh (key : String) (seen : Nat) (status : σ) (now : Nat)
    (c : StatusCache σ) :
    (c.refresh key seen).isDue key status now = c.isDue key status now := by
  rw [Bool.eq_iff_iff, isDue_eq_true_iff, isDue_eq_true_iff, sent?_refresh]
  rfl

theorem isDue_update_self (key : String) (status : σ) (now : Nat) (c : StatusCache σ) :
    (c.update key status now).isDue key status now = false := by
  rw [← Bool.not_eq_true, isDue_eq_true_iff, sent?_update_self]
  intro h
  rcases h with h | ⟨last, time, h, hlast⟩
  · cases h
  · cases h
    rcases hlast with hlast | hlast
    · exact hlast rfl
    · rw [Nat.sub_self] at hlast
      exact Nat.not_lt_zero _ hlast

omit [DecidableEq σ] in
theorem refresh_eq_self {key : String} {now : Nat} {c : StatusCache σ}
    (h : ∀ e, c.entries.find? key = some e → e.lastObserved = now) : c.refresh key now = c := by
  unfold refresh
  rw [Keyed.modify_eq_self]
  intro e he
  rw [← h e he]

omit [DecidableEq σ] in
theorem refresh_refresh (key : String) (now : Nat) (c : StatusCache σ) :
    (c.refresh key now).refresh key now = c.refresh key now := by
  apply refresh_eq_self
  intro e he
  rw [find?_refresh, if_pos rfl] at he
  rcases Option.map_eq_some_iff.mp he with ⟨old, _, rfl⟩
  rfl

omit [DecidableEq σ] in
theorem refresh_update (key : String) (status : σ) (now : Nat) (c : StatusCache σ) :
    (c.update key status now).refresh key now = c.update key status now := by
  apply refresh_eq_self
  intro e he
  rw [find?_update, if_pos rfl] at he
  rw [← Option.some.inj he]

end StatusCache
end FleetBridge
