import FleetBridge.Proofs.Bridge.Telemetry
import FleetBridge.Proofs.Presence

/-!
# Messages that come again

The queue delivers a message at least once.  What a message decides is taken out of the
pending commands the first time, so that a second delivery finds nothing to settle,
whatever the first one settled, left undecided, or could not record.  As long as the clock
stands still, nothing is due or let through that was held back before either.
-/

namespace FleetBridge
namespace Bridge

open Message

structure Redelivered (now later : Time.Moment) (after : Bridge)
    (again : List CommandResult × Bridge) : Prop where
  results : again.1 = []
  reports : again.2.reports = after.reports
  store : again.2.store = after.store
  pending : again.2.pending = after.pending
  isOnline : ∀ device, again.2.presence.isOnline device = after.presence.isOnline device
  manufacturer : ∀ device,
    again.2.presence.manufacturer device = after.presence.manufacturer device
  published : later.elapsed = now.elapsed → again.2.published = after.published
  statuses : later.elapsed = now.elapsed → again.2.statuses = after.statuses
  limiter : later.elapsed = now.elapsed → again.2.limiter = after.limiter
  same : later = now → again.2 = after

/-!
# Statuses and the limiter
-/

theorem passes_of_held {now : Time.Moment} {device : String} {status : Summary} {b : Bridge}
    (h : b.passes now device status = false) :
    { b with statuses := b.statuses.refresh device now.elapsed }.passes now device status =
      false := by
  unfold passes at h ⊢
  rw [StatusCache.isDue_refresh]
  exact h

theorem observeStatus_of_held {now : Time.Moment} {device : String} {status : Summary}
    {b : Bridge} (h : b.passes now device status = false)
    (hstatuses : b.statuses.refresh device now.elapsed = b.statuses) :
    b.observeStatus now device status = b := by
  rw [observeStatus_eq, h, if_neg Bool.false_ne_true, hstatuses]

namespace Telemetry

/-- What a state leaves behind in the cache and the limiter holds it back afterwards. -/
theorem held_statuses (now : Time.Moment) (s : State) {b after : Bridge}
    (hstatuses : after.statuses = (state s).statuses now b)
    (hlimiter : after.limiter = (state s).limiter now b) :
    after.passes now s.serialNumber s.summary = false ∧
      after.statuses.refresh s.serialNumber now.elapsed = after.statuses := by
  unfold passes
  rw [hstatuses, hlimiter]
  simp only [statuses, limiter]
  cases hpasses : b.passes now s.serialNumber s.summary with
  | true =>
      rw [if_pos rfl, if_pos rfl]
      constructor
      · rw [StatusCache.isDue_update_self]
        rfl
      · exact StatusCache.refresh_update _ _ _ _
  | false =>
      rw [if_neg Bool.false_ne_true, if_neg Bool.false_ne_true]
      constructor
      · exact passes_of_held hpasses
      · exact StatusCache.refresh_refresh _ _ _

theorem limiter_reset_reset (device : String) (l : Option RateLimiter) :
    (l.map (RateLimiter.reset device)).map (RateLimiter.reset device) =
      l.map (RateLimiter.reset device) := by
  cases l with
  | none => rfl
  | some l =>
      simp only [Option.map_some, RateLimiter.reset]
      rw [Keyed.erase_eq_self (Keyed.find?_erase_self _ _)]

theorem noted_of_still {now later : Time.Moment} (hstill : later.elapsed = now.elapsed)
    (m : Telemetry) {b after : Bridge} (hstatuses : after.statuses = m.statuses now b)
    (hlimiter : after.limiter = m.limiter now b) :
    m.noted later after = { after with presence := m.seen later after.presence } := by
  cases m with
  | state s =>
      rcases held_statuses now s hstatuses hlimiter with ⟨hheld, hrefresh⟩
      apply observeStatus_of_held
      · unfold passes at hheld ⊢
        rw [hstill]
        exact hheld
      · rw [hstill]
        exact hrefresh
  | connection c =>
      have hreset : (connection c).limiter later after = after.limiter := by
        rw [limiter, hlimiter, limiter]
        cases c.status.isOnline with
        | true => rfl
        | false => exact limiter_reset_reset _ _
      rw [rest_noted, hreset]
      rfl
  | factsheet f => rfl

/-!
# Presence
-/

theorem standing?_seen (now later : Time.Moment) (m : Telemetry) (p : Presence)
    (device : String) :
    (m.seen later p).standing? device = (m.seen now p).standing? device := by
  cases m with
  | state s => exact Presence.standing?_setOnline _ _ _ _ p device
  | connection c =>
      simp only [seen, Presence.observeConnection]
      split
      · exact Presence.standing?_setOnline _ _ _ _ p device
      · exact Presence.standing?_setOffline _ _ _ p device
  | factsheet f => exact Presence.standing?_observeFactsheet _ _ _ _ p device

theorem seen_seen (now : Time.Moment) (m : Telemetry) (p : Presence) :
    m.seen now (m.seen now p) = m.seen now p := by
  cases m with
  | state s => exact Presence.setOnline_setOnline _ _ _ p
  | connection c =>
      simp only [seen, Presence.observeConnection]
      cases c.status.isOnline with
      | true => exact Presence.setOnline_setOnline _ _ _ p
      | false => exact Presence.setOffline_setOffline _ _ _ p
  | factsheet f => exact Presence.observeFactsheet_observeFactsheet _ _ _ _ p

theorem fallback_seen (now : Time.Moment) (m : Telemetry) (p : Presence) :
    (m.seen now p).fallback = p.fallback := by
  cases m with
  | state s => rfl
  | connection c =>
      simp only [seen, Presence.observeConnection, Presence.setOnline, Presence.setOffline]
      split
      · rfl
      · split <;> rfl
  | factsheet f =>
      simp only [seen, Presence.observeFactsheet]
      split <;> rfl

/-!
# A second delivery
-/

theorem reports_noted (now : Time.Moment) (m : Telemetry) (b : Bridge) :
    (m.noted now b).reports = b.reports := by
  cases m with
  | state s => exact reports_observeStatus _ _ _ _
  | connection c => rfl
  | factsheet f => rfl

theorem pending_noted (now : Time.Moment) (m : Telemetry) (b : Bridge) :
    (m.noted now b).pending = b.pending := by
  rw [rest_noted]

theorem handle_of_decided (now : Time.Moment) (m : Telemetry) {b : Bridge}
    (h : ∀ c ∈ b.pending.commands, m.settle? c = none) :
    m.handle now b = ([], m.noted now b) := by
  have hdecisions : m.decisions (b.waiting m.device) = [] := by
    rw [List.eq_nil_iff_forall_not_mem]
    intro d hd
    rcases mem_decisions_iff.mp hd with ⟨hmem, _, hsettle⟩
    rw [h d.command hmem] at hsettle
    cases hsettle
  have hpending := pending_noted now m b
  rw [handle_eq, hdecisions, remaining_eq_self h, ← hpending]
  rfl

section

variable (now later : Time.Moment) (m : Telemetry) (b : Bridge)

theorem handle_handle :
    m.handle later (m.handle now b).2 = ([], m.noted later (m.handle now b).2) := by
  apply handle_of_decided
  intro c hc
  rw [pending_handle] at hc
  exact (mem_remaining_iff.mp hc).2

theorem presence_noted : (m.noted now b).presence = m.seen now b.presence := by
  rw [rest_noted]

theorem standing?_noted_handle (device : String) :
    (m.noted later (m.handle now b).2).presence.standing? device =
      (m.handle now b).2.presence.standing? device := by
  rw [presence_noted, standing?_seen now later, presence_handle, seen_seen]

theorem fallback_noted : (m.noted now b).presence.fallback = b.presence.fallback := by
  rw [presence_noted, fallback_seen]

theorem noted_handle_of_still (h : later.elapsed = now.elapsed) :
    m.noted later (m.handle now b).2 =
      { (m.handle now b).2 with presence := m.seen later (m.handle now b).2.presence } :=
  noted_of_still h m (statuses_handle now m b) (limiter_handle now m b)

theorem noted_handle_self : m.noted now (m.handle now b).2 = (m.handle now b).2 := by
  have hseen : m.seen now (m.handle now b).2.presence = (m.handle now b).2.presence := by
    rw [presence_handle, seen_seen]
  rw [noted_handle_of_still now now m b rfl, hseen]

end

/-- Taking in a message that was just taken in is harmless, in every state of the bridge and
at every time. -/
theorem redelivered_handle (now later : Time.Moment) (m : Telemetry) (b : Bridge) :
    let after := (m.handle now b).2
    Redelivered now later after (m.handle later after) := by
  intro after
  have hstanding := standing?_noted_handle now later m b
  have hstill := noted_handle_of_still now later m b
  rw [handle_handle now later m b]
  exact
    { results := rfl
      reports := reports_noted later m after
      store := store_noted later m after
      pending := pending_noted later m after
      isOnline := fun device => Presence.isOnline_congr (hstanding device)
      manufacturer := fun device =>
        Presence.manufacturer_congr (hstanding device) (fallback_noted later m after)
      published := fun h => by rw [hstill h]
      statuses := fun h => by rw [hstill h]
      limiter := fun h => by rw [hstill h]
      same := by
        intro h
        subst h
        exact noted_handle_self later m b }

end Telemetry

end Bridge
end FleetBridge
