import FleetBridge.Proofs.Bridge.Custody
import FleetBridge.Proofs.Bridge.Redelivery

/-!
# Robots do not get in each other's way

What the bridge keeps in five places is seen here robot by robot.  A message is a function
of what the bridge knows about its robot, and changes nothing that it knows about another
one.  So messages of different robots may be taken in in either order.
-/

namespace FleetBridge
namespace Bridge

open Message Record

/-!
# The bridge as one robot sees it
-/

/-- What a bridge knows about a robot, apart from records. -/
structure View where
  presence : Option Presence.Entry
  status : Option (StatusCache.Entry Summary)
  lastSent : Option Nat
  waiting : List Pending.Command

def view (device : String) (b : Bridge) : View :=
  { presence := b.presence.devices.find? device
    status := b.statuses.entries.find? device
    lastSent := b.limiter.bind (fun l => l.lastSent.find? device)
    waiting := b.waiting device }

/-- What holds for all robots alike. -/
structure Settings where
  fallback : String
  heartbeat : Nat
  ttl : Nat
  /-- The two intervals of the limiter, if there is one. -/
  pace : Option (Nat × Nat)
  reportsResults : Bool

def settings (b : Bridge) : Settings :=
  { fallback := b.presence.fallback
    heartbeat := b.statuses.heartbeat
    ttl := b.statuses.ttl
    pace := b.limiter.map (fun l => (l.minInterval, l.burstInterval))
    reportsResults := b.reportsResults }

def saidOf (device : String) (b : Bridge) : List Saying :=
  b.said.filter (fun e => e.payload.device == device)

structure Agrees (device : String) (b b' : Bridge) : Prop where
  settings : b'.settings = b.settings
  view : b'.view device = b.view device

section

variable {device : String} {b b' : Bridge}

theorem Agrees.waiting (h : Agrees device b b') : b'.waiting device = b.waiting device :=
  congrArg View.waiting h.view

theorem Agrees.isDue (h : Agrees device b b') (status : Summary) (now : Nat) :
    b'.statuses.isDue device status now = b.statuses.isDue device status now := by
  have hentry : b'.statuses.entries.find? device = b.statuses.entries.find? device :=
    congrArg View.status h.view
  have hheartbeat : b'.statuses.heartbeat = b.statuses.heartbeat :=
    congrArg Settings.heartbeat h.settings
  simp only [StatusCache.isDue, StatusCache.isDueAfter, hentry, hheartbeat]

theorem Agrees.limiter (h : Agrees device b b') :
    (b'.limiter = none ∧ b.limiter = none) ∨
      ∃ l' l, b'.limiter = some l' ∧ b.limiter = some l ∧
        l'.minInterval = l.minInterval ∧ l'.burstInterval = l.burstInterval ∧
        l'.lastSent.find? device = l.lastSent.find? device := by
  have hpace : b'.limiter.map (fun l => (l.minInterval, l.burstInterval)) =
      b.limiter.map (fun l => (l.minInterval, l.burstInterval)) :=
    congrArg Settings.pace h.settings
  have hlast : b'.limiter.bind (fun l => l.lastSent.find? device) =
      b.limiter.bind (fun l => l.lastSent.find? device) :=
    congrArg View.lastSent h.view
  cases hl' : b'.limiter with
  | none =>
      cases hl : b.limiter with
      | none => exact Or.inl ⟨rfl, rfl⟩
      | some l =>
          rw [hl', hl] at hpace
          cases hpace
  | some l' =>
      cases hl : b.limiter with
      | none =>
          rw [hl', hl] at hpace
          cases hpace
      | some l =>
          rw [hl', hl] at hpace hlast
          have hpair := Option.some.inj hpace
          exact Or.inr ⟨l', l, rfl, rfl, congrArg Prod.fst hpair, congrArg Prod.snd hpair, hlast⟩

theorem Agrees.letThrough (h : Agrees device b b') (now : Nat) :
    (letThrough device now b'.limiter).1 = (letThrough device now b.limiter).1 := by
  rcases h.limiter with ⟨hnone', hnone⟩ | ⟨l', l, hl', hl, hmin, hburst, hlast⟩
  · rw [hnone', hnone]
  · have hadmits : l'.admits device now = l.admits device now := by
      simp only [RateLimiter.admits, hlast, hmin, hburst]
    rw [hl', hl]
    simp only [Bridge.letThrough, RateLimiter.allow, hadmits]
    split <;> rfl

theorem Agrees.passes (h : Agrees device b b') (now : Time.Moment) (status : Summary) :
    b'.passes now device status = b.passes now device status := by
  rw [Bridge.passes, h.isDue, h.letThrough, ← Bridge.passes]

end

/-!
# Presence, statuses and the limiter
-/

namespace Telemetry

theorem find?_seen_of_ne {m : Telemetry} {other : String} (h : other ≠ m.device)
    (now : Time.Moment) (p : Presence) :
    (m.seen now p).devices.find? other = p.devices.find? other := by
  cases m with
  | state s => exact Keyed.find?_insert_of_ne h _ _
  | connection c =>
      simp only [seen, Presence.observeConnection, Presence.setOnline, Presence.setOffline]
      split
      · exact Keyed.find?_insert_of_ne h _ _
      · split
        · exact Keyed.find?_modify_of_ne h _ _
        · rfl
  | factsheet f =>
      simp only [seen, Presence.observeFactsheet]
      split
      · rfl
      · exact Keyed.find?_insert_of_ne h _ _

theorem find?_seen_congr {m : Telemetry} {p q : Presence}
    (h : q.devices.find? m.device = p.devices.find? m.device) (now : Time.Moment) :
    (m.seen now q).devices.find? m.device = (m.seen now p).devices.find? m.device := by
  have hsetOnline : ∀ manufacturer,
      (q.setOnline now.instant m.device manufacturer).devices.find? m.device =
        (p.setOnline now.instant m.device manufacturer).devices.find? m.device := by
    intro manufacturer
    simp only [Presence.setOnline, Keyed.find?_insert_self, h]
  cases m with
  | state s => exact hsetOnline _
  | connection c =>
      simp only [seen, Presence.observeConnection]
      cases c.status.isOnline with
      | true => exact hsetOnline _
      | false =>
          have hdevice : q.devices.find? c.serialNumber = p.devices.find? c.serialNumber := h
          have honline : q.isOnline c.serialNumber = p.isOnline c.serialNumber := by
            simp only [Presence.isOnline, hdevice]
          simp only [Bool.false_eq_true, if_false, Presence.setOffline, honline]
          split
          · simp only [device, Keyed.find?_modify_self, hdevice]
          · exact hdevice
  | factsheet f =>
      have hdevice : q.devices.find? f.device = p.devices.find? f.device := h
      simp only [seen, Presence.observeFactsheet]
      split
      · exact hdevice
      · simp only [device, Keyed.find?_insert_self, hdevice]

theorem find?_statuses_of_ne {m : Telemetry} {other : String} (h : other ≠ m.device)
    (now : Time.Moment) (b : Bridge) :
    (m.statuses now b).entries.find? other = b.statuses.entries.find? other := by
  cases m with
  | state s =>
      simp only [statuses]
      split
      · exact Keyed.find?_insert_of_ne h _ _
      · exact Keyed.find?_modify_of_ne h _ _
  | connection c => rfl
  | factsheet f => rfl

theorem find?_statuses_congr {m : Telemetry} {b b' : Bridge} (h : Agrees m.device b b')
    (now : Time.Moment) :
    (m.statuses now b').entries.find? m.device = (m.statuses now b).entries.find? m.device := by
  have hentry : b'.statuses.entries.find? m.device = b.statuses.entries.find? m.device :=
    congrArg View.status h.view
  cases m with
  | state s =>
      have hpasses : b'.passes now s.serialNumber s.summary =
          b.passes now s.serialNumber s.summary := h.passes now s.summary
      have hfound : b'.statuses.entries.find? s.serialNumber =
          b.statuses.entries.find? s.serialNumber := hentry
      simp only [statuses, hpasses]
      split
      · simp only [device, StatusCache.update, Keyed.find?_insert_self, hfound]
      · simp only [device, StatusCache.refresh, Keyed.find?_modify_self, hfound]
  | connection c => exact hentry
  | factsheet f => exact hentry

theorem lastSent_limiter_of_ne {m : Telemetry} {other : String} (h : other ≠ m.device)
    (now : Time.Moment) (b : Bridge) :
    (m.limiter now b).bind (fun l => l.lastSent.find? other) =
      b.limiter.bind (fun l => l.lastSent.find? other) := by
  cases m with
  | state s =>
      simp only [limiter]
      split
      · cases b.limiter with
        | none => rfl
        | some l =>
            simp only [letThrough, RateLimiter.allow]
            split
            · exact Keyed.find?_insert_of_ne h _ _
            · rfl
      · rfl
  | connection c =>
      simp only [limiter]
      split
      · rfl
      · cases b.limiter with
        | none => rfl
        | some l => exact Keyed.find?_erase_of_ne h _
  | factsheet f => rfl

theorem lastSent_letThrough {device : String} {now : Nat} {l : Option RateLimiter}
    (h : (letThrough device now l).1 = true) :
    (letThrough device now l).2.bind (fun l => l.lastSent.find? device) =
      l.map (fun _ => now) := by
  cases l with
  | none => rfl
  | some l =>
      simp only [letThrough, RateLimiter.allow] at h ⊢
      split at h
      · rename_i hadmits
        simp only [hadmits, if_true]
        exact Keyed.find?_insert_self _ _ _
      · cases h

theorem lastSent_reset (device : String) (l : Option RateLimiter) :
    (l.map (RateLimiter.reset device)).bind (fun l => l.lastSent.find? device) = none := by
  cases l with
  | none => rfl
  | some l => exact Keyed.find?_erase_self _ _

theorem lastSent_limiter_congr {m : Telemetry} {b b' : Bridge} (h : Agrees m.device b b')
    (now : Time.Moment) :
    (m.limiter now b').bind (fun l => l.lastSent.find? m.device) =
      (m.limiter now b).bind (fun l => l.lastSent.find? m.device) := by
  have hlast : b'.limiter.bind (fun l => l.lastSent.find? m.device) =
      b.limiter.bind (fun l => l.lastSent.find? m.device) := congrArg View.lastSent h.view
  cases m with
  | state s =>
      have hpasses : b'.passes now s.serialNumber s.summary =
          b.passes now s.serialNumber s.summary := h.passes now s.summary
      simp only [limiter, hpasses]
      cases hpassed : b.passes now s.serialNumber s.summary with
      | false => exact hlast
      | true =>
          have hasked := (Bool.and_eq_true_iff.mp hpassed).2
          have hasked' := (Bool.and_eq_true_iff.mp (hpasses.trans hpassed)).2
          have hpresent : b'.limiter.map (fun _ => now.elapsed) =
              b.limiter.map (fun _ => now.elapsed) := by
            rcases h.limiter with ⟨hnone', hnone⟩ | ⟨l', l, hl', hl, _⟩
            · rw [hnone', hnone]
            · rw [hl', hl]
              rfl
          simp only [if_true, device]
          rw [lastSent_letThrough hasked', lastSent_letThrough hasked, hpresent]
  | connection c =>
      simp only [limiter]
      split
      · exact hlast
      · rw [device, lastSent_reset, lastSent_reset]
  | factsheet f => exact hlast

theorem waiting_remaining_of_ne {m : Telemetry} {other : String} (h : other ≠ m.device)
    (b : Bridge) :
    (m.remaining b.pending).commands.filter (fun c => c.device == other) = b.waiting other := by
  simp only [remaining, Pending.filter, List.filter_filter, Bridge.waiting]
  apply List.filter_congr
  intro c _
  by_cases hc : c.device = other
  · have hundecided : m.settle? c = none := settle?_of_ne (hc ▸ h)
    rw [hundecided]
    exact Bool.and_true _
  · rw [beq_false_of_ne hc]
    rfl

/-!
# One message
-/

section

variable (now : Time.Moment) (m : Telemetry) (b : Bridge)

theorem settings_statuses :
    (m.statuses now b).heartbeat = b.statuses.heartbeat ∧
      (m.statuses now b).ttl = b.statuses.ttl := by
  cases m with
  | state s =>
      simp only [statuses]
      split <;> exact ⟨rfl, rfl⟩
  | connection c => exact ⟨rfl, rfl⟩
  | factsheet f => exact ⟨rfl, rfl⟩

theorem pace_limiter :
    (m.limiter now b).map (fun l => (l.minInterval, l.burstInterval)) =
      b.limiter.map (fun l => (l.minInterval, l.burstInterval)) := by
  cases m with
  | state s =>
      simp only [limiter]
      split
      · cases b.limiter with
        | none => rfl
        | some l =>
            simp only [letThrough, RateLimiter.allow]
            split <;> rfl
      · rfl
  | connection c =>
      simp only [limiter]
      split
      · rfl
      · cases b.limiter <;> rfl
  | factsheet f => rfl

theorem settings_handle : (m.handle now b).2.settings = b.settings := by
  have hstatuses := settings_statuses now m b
  simp only [settings, presence_handle, statuses_handle, limiter_handle, reportsResults_handle,
    fallback_seen, hstatuses.1, hstatuses.2, pace_limiter]

theorem view_handle (device : String) :
    (m.handle now b).2.view device =
      { presence := (m.seen now b.presence).devices.find? device
        status := (m.statuses now b).entries.find? device
        lastSent := (m.limiter now b).bind (fun l => l.lastSent.find? device)
        waiting := (m.remaining b.pending).commands.filter (fun c => c.device == device) } := by
  simp only [view, presence_handle, statuses_handle, limiter_handle, waiting, pending_handle]

end

section

variable {m : Telemetry} (now : Time.Moment)

/-- What is known of another robot stays as it is. -/
theorem view_handle_of_ne {other : String} (h : other ≠ m.device) (b : Bridge) :
    (m.handle now b).2.view other = b.view other := by
  rw [view_handle, find?_seen_of_ne h, find?_statuses_of_ne h, lastSent_limiter_of_ne h,
    waiting_remaining_of_ne h]
  rfl

theorem agrees_handle_of_ne {other : String} (h : other ≠ m.device) (b : Bridge) :
    Agrees other b (m.handle now b).2 where
  settings := settings_handle now m b
  view := view_handle_of_ne now h b

theorem saidOf_handle_of_ne {other : String} (h : other ≠ m.device) (b : Bridge) :
    (m.handle now b).2.saidOf other = b.saidOf other := by
  have hnone : (m.news now b).filter (fun e => e.payload.device == other) = [] := by
    rw [List.filter_eq_nil_iff]
    intro e he heq
    exact h ((beq_iff_eq.mp heq).symm.trans (device_of_mem_news he))
  rw [saidOf, said_handle, List.filter_append, hnone, List.append_nil]
  rfl

variable {b b' : Bridge}

theorem results_handle_congr (h : Agrees m.device b b') :
    (m.handle now b').1 = (m.handle now b).1 := by
  rw [results_handle, results_handle, h.waiting]

theorem news_congr (h : Agrees m.device b b') : m.news now b' = m.news now b := by
  have hreports : b'.reportsResults = b.reportsResults :=
    congrArg Settings.reportsResults h.settings
  have hstatus : m.statusNews now b' = m.statusNews now b := by
    cases m with
    | state s =>
        have hpasses : b'.passes now s.serialNumber s.summary =
            b.passes now s.serialNumber s.summary := h.passes now s.summary
        simp only [statusNews, Bridge.statusNews, hpasses]
    | connection c => rfl
    | factsheet f => rfl
  rw [news, hstatus, hreports, h.waiting, ← news]

theorem filter_remaining (p : Pending) :
    (m.remaining p).commands.filter (fun c => c.device == m.device) =
      (p.commands.filter (fun c => c.device == m.device)).filter
        (fun c => (m.settle? c).isNone) := by
  simp only [remaining, Pending.filter, List.filter_filter, Bool.and_comm]

/-- A message is a function of what the bridge knows of its robot. -/
theorem view_handle_congr (h : Agrees m.device b b') :
    (m.handle now b').2.view m.device = (m.handle now b).2.view m.device := by
  have hpresence : b'.presence.devices.find? m.device = b.presence.devices.find? m.device :=
    congrArg View.presence h.view
  have hwaiting : b'.pending.commands.filter (fun c => c.device == m.device) =
      b.pending.commands.filter (fun c => c.device == m.device) := h.waiting
  rw [view_handle, view_handle, find?_seen_congr hpresence, find?_statuses_congr h,
    lastSent_limiter_congr h, filter_remaining, filter_remaining, hwaiting]

end

end Telemetry

/-!
# What a message of a robot can change
-/

/-- A step that leaves what other robots see of a bridge. -/
structure LeavesOthers (device : String) (b b' : Bridge) : Prop where
  settings : b'.settings = b.settings
  view : ∀ other, other ≠ device → b'.view other = b.view other
  said : ∀ other, other ≠ device → b'.saidOf other = b.saidOf other

/-- A step that concerns one robot alone, its records included. -/
structure Confined (device : String) (b b' : Bridge) : Prop extends
    LeavesOthers device b b' where
  record : ∀ orderId row, row.device ≠ device →
    (b'.store.row? orderId = some row ↔ b.store.row? orderId = some row)

theorem device?_handle (now : Time.Moment) (m : Telemetry) (b : Bridge) (orderId : String) :
    (m.handle now b).2.store.device? orderId = b.store.device? orderId := by
  rw [m.store_handle]
  exact device?_closed now _ b.store orderId

theorem row?_handle_of_ne {b : Bridge} (hb : b.Owned) {m : Telemetry} {orderId device : String}
    (hdevice : b.store.device? orderId = some device) (h : device ≠ m.device)
    (now : Time.Moment) : (m.handle now b).2.store.row? orderId = b.store.row? orderId := by
  rw [m.store_handle]
  apply row?_closed_of_ne
  intro d hd hkey
  rcases Telemetry.mem_decisions_iff.mp hd with ⟨hc, hown, _⟩
  rw [hkey] at hdevice
  exact h ((hb d.command hc device hdevice).trans hown)

theorem leavesOthers_handle (now : Time.Moment) (m : Telemetry) (b : Bridge) :
    LeavesOthers m.device b (m.handle now b).2 where
  settings := m.settings_handle now b
  view _ h := Telemetry.view_handle_of_ne now h b
  said _ h := Telemetry.saidOf_handle_of_ne now h b

theorem confined_handle {b : Bridge} (hb : b.Owned) (now : Time.Moment) (m : Telemetry) :
    Confined m.device b (m.handle now b).2 where
  toLeavesOthers := leavesOthers_handle now m b
  record orderId row hrow := by
    constructor
    · intro hfound
      have hdevice := Store.device?_of_row? hfound
      rw [device?_handle] at hdevice
      exact (row?_handle_of_ne hb hdevice hrow now).symm.trans hfound
    · intro hfound
      exact (row?_handle_of_ne hb (Store.device?_of_row? hfound) hrow now).trans hfound

/-!
# Messages of different robots
-/

/-- Two bridges that are the same for every robot. -/
structure Alike (b b' : Bridge) : Prop where
  settings : b'.settings = b.settings
  view : ∀ device, b'.view device = b.view device
  said : ∀ device, b'.saidOf device = b.saidOf device
  pending : b'.pending = b.pending
  store : b'.store = b.store

theorem pending_handle_comm (now : Time.Moment) (m n : Telemetry) (b : Bridge) :
    (m.handle now (n.handle now b).2).2.pending =
      (n.handle now (m.handle now b).2).2.pending := by
  simp only [Telemetry.pending_handle]
  exact Pending.filter_comm _ _ _

section

variable {m n : Telemetry} (h : m.device ≠ n.device) (now : Time.Moment) (b : Bridge)

include h

theorem agrees_handle : Agrees m.device b (n.handle now b).2 :=
  Telemetry.agrees_handle_of_ne now h b

theorem view_handle_comm (device : String) :
    (m.handle now (n.handle now b).2).2.view device =
      (n.handle now (m.handle now b).2).2.view device := by
  by_cases hm : device = m.device
  · rw [hm, Telemetry.view_handle_congr now (agrees_handle h now b),
      Telemetry.view_handle_of_ne now h]
  · rw [Telemetry.view_handle_of_ne now hm]
    by_cases hn : device = n.device
    · rw [hn, Telemetry.view_handle_congr now (agrees_handle h.symm now b)]
    · rw [Telemetry.view_handle_of_ne now hn, Telemetry.view_handle_of_ne now hn,
        Telemetry.view_handle_of_ne now hm]

theorem saidOf_handle_comm (device : String) :
    (m.handle now (n.handle now b).2).2.saidOf device =
      (n.handle now (m.handle now b).2).2.saidOf device := by
  have hm := Telemetry.news_congr now (agrees_handle h now b)
  have hn := Telemetry.news_congr now (agrees_handle h.symm now b)
  by_cases hdevice : device = m.device
  · have hne : device ≠ n.device := hdevice ▸ h
    rw [Telemetry.saidOf_handle_of_ne now hne, saidOf, Telemetry.said_handle, hm,
      List.filter_append, ← saidOf, Telemetry.saidOf_handle_of_ne now hne, saidOf, saidOf,
      Telemetry.said_handle, List.filter_append]
  · rw [Telemetry.saidOf_handle_of_ne now hdevice, saidOf, saidOf, Telemetry.said_handle,
      Telemetry.said_handle, hn, List.filter_append, List.filter_append, ← saidOf, ← saidOf,
      Telemetry.saidOf_handle_of_ne now hdevice]

theorem key_ne_of_mem_decisions {d e : Pending.Settlement}
    (hd : d ∈ m.decisions (b.waiting m.device)) (he : e ∈ n.decisions (b.waiting n.device)) :
    d.command.key ≠ e.command.key := by
  intro hkey
  rcases Telemetry.mem_decisions_iff.mp hd with ⟨hdmem, hddevice, _⟩
  rcases Telemetry.mem_decisions_iff.mp he with ⟨hemem, hedevice, _⟩
  have hdfind : b.pending.find? e.command.key = some d.command :=
    Pending.find?_eq_some_iff.mpr ⟨hdmem, hkey⟩
  have hefind : b.pending.find? e.command.key = some e.command :=
    Pending.find?_eq_some_iff.mpr ⟨hemem, rfl⟩
  rw [hdfind] at hefind
  have hsame := Option.some.inj hefind
  exact h (hddevice.symm.trans ((congrArg Pending.Command.device hsame).trans hedevice))

theorem store_handle_comm :
    (m.handle now (n.handle now b).2).2.store =
      (n.handle now (m.handle now b).2).2.store := by
  have hm := (agrees_handle h now b).waiting
  have hn := (agrees_handle h.symm now b).waiting
  rw [m.store_handle, n.store_handle, n.store_handle, m.store_handle, hm, hn]
  apply closed_comm
  intro e he d hd
  exact (key_ne_of_mem_decisions h b hd he).symm

theorem alike_handle :
    Alike (n.handle now (m.handle now b).2).2 (m.handle now (n.handle now b).2).2 where
  settings := by simp only [Telemetry.settings_handle]
  view := view_handle_comm h now b
  said := saidOf_handle_comm h now b
  pending := pending_handle_comm now m n b
  store := store_handle_comm h now b

end

/-- In every run, messages of different robots at one time may be taken in in either order:
each gives the same results, and the bridge comes out the same for every robot.  A message
leaves what is kept of other robots, and their records as well: should somebody have gone
away, that takes identifiers that were new when they were drawn. -/
theorem independent_handle {b : Bridge} (hb : b.pending = .empty) (deeds : List World.Entry)
    {m n : Telemetry} (h : m.device ≠ n.device) (now : Time.Moment) :
    let before := ((World.calm b).run deeds).bridge
    let first := m.handle now before
    let second := n.handle now before
    (m.handle now second.2).1 = first.1 ∧ (n.handle now first.2).1 = second.1 ∧
      Alike (n.handle now first.2).2 (m.handle now second.2).2 ∧
      LeavesOthers m.device before first.2 ∧
      (((∃ e ∈ deeds, e.2.isAbandon = true) → (World.calm b).drawsFresh deeds = true) →
        Confined m.device before first.2) := by
  intro before first second
  refine ⟨?_, ?_, alike_handle h now before, leavesOthers_handle now m before, ?_⟩
  · exact Telemetry.results_handle_congr now (agrees_handle h now before)
  · exact Telemetry.results_handle_congr now (agrees_handle h.symm now before)
  · intro hfresh
    have howned : before.Owned := World.owned_run hb hfresh
    exact confined_handle howned now m

def bothUnderway : List World.Entry :=
  underway ++
    [ (second 3,
        .connection
          { headerId := 0, timestamp := none, manufacturer := "acme",
            serialNumber := "agv-02", status := .online }),
      (second 4,
        .start "agv-02" none
          (.rawOrder "raw-2" 0 { nodes := [], edges := [] } "raw order")) ]

def leaving : Connection :=
  { headerId := 1, timestamp := none, manufacturer := "acme", serialNumber := "agv-02",
    status := .offline }

theorem independent_handle_bothUnderway :
    let before := ((World.calm idle).run bothUnderway).bridge
    let first := (Telemetry.state picked).handle (second 5) before
    let other := (Telemetry.connection leaving).handle (second 5) before
    let last := (Telemetry.state picked).handle (second 5) other.2
    last.1 = first.1 ∧ first.1.map CommandResult.correlationKey = ["raw-1"] ∧
      other.1.map CommandResult.correlationKey = ["raw-2"] ∧
      Alike ((Telemetry.connection leaving).handle (second 5) first.2).2 last.2 ∧
      Confined "agv-01" before first.2 := by
  intro before first other last
  have hempty : idle.pending = .empty := rfl
  have hfresh : (World.calm idle).drawsFresh bothUnderway = true := by decide +kernel
  have hne : (Telemetry.state picked).device ≠ (Telemetry.connection leaving).device := by
    decide +kernel
  have hfirst : first.1.map CommandResult.correlationKey = ["raw-1"] := by decide +kernel
  have hother : other.1.map CommandResult.correlationKey = ["raw-2"] := by decide +kernel
  rcases independent_handle hempty bothUnderway hne (second 5) with
    ⟨hresults, _, halike, _, hconfined⟩
  exact ⟨hresults, hfirst, hother, halike, hconfined (fun _ => hfresh)⟩

end Bridge
end FleetBridge
