import FleetBridge.Proofs.Bridge.Backing
import FleetBridge.Proofs.Bridge.Outcome
import FleetBridge.Proofs.Bridge.Bystander
import FleetBridge.Proofs.Presence

/-!
# What is outstanding with robots that are gone

A command is registered only for a robot that is there, and the message that takes a robot
away takes its commands out in the same step.  So whoever is not there has none: neither a
dispatch that was let in before the robot went and ends after it, nor the telemetry of
other robots, brings one back.
-/

namespace FleetBridge
namespace Bridge

open Message Record

/-- Every pending command waits for a robot that is there. -/
def AwaitsPresent (b : Bridge) : Prop :=
  ∀ c ∈ b.pending.commands, b.presence.isOnline c.device = true

/-- A step that registers nothing and takes no robot away. -/
structure Retains (b b' : Bridge) : Prop where
  pending : ∀ {c}, c ∈ b'.pending.commands → c ∈ b.pending.commands
  presence : ∀ {device}, b.presence.isOnline device = true →
    b'.presence.isOnline device = true

section

variable {b b' start : Bridge}

theorem AwaitsPresent.retains (hb : b.AwaitsPresent) (h : Retains b b') : b'.AwaitsPresent :=
  fun c hc => h.presence (hb c (h.pending hc))

theorem Retains.of_same (hpending : b'.pending = b.pending)
    (hpresence : b'.presence = b.presence) : Retains b b' where
  pending hc := hpending ▸ hc
  presence honline := hpresence ▸ honline

theorem Retains.trans (h : Retains b start) (h' : Retains start b') : Retains b b' where
  pending hc := h.pending (h'.pending hc)
  presence honline := h'.presence (h.presence honline)

theorem Retains.of_filter {p : Pending.Command → Bool}
    (hpending : b'.pending = b.pending.filter p) (hpresence : b'.presence = b.presence) :
    Retains b b' where
  pending hc := by
    rw [hpending] at hc
    exact (List.mem_filter.mp hc).1
  presence honline := hpresence ▸ honline

theorem Spares.retains {α β : Type} {f : α → Bridge → β × Bridge} (h : Spares f) (as : List α)
    (b : Bridge) : Retains b (Bridge.forEach f as b).2 := by
  have hrest := h.forEach.rest as b
  rw [hrest]
  exact Retains.of_same rfl rfl

end

/-!
# One step
-/

section

variable (now : Time.Moment) (b : Bridge)

theorem retains_failCommands (reason : String) (p : Pending.Command → Bool) :
    Retains b
      (failCommands now reason (b.pending.takeWhere p).1
        { b with pending := (b.pending.takeWhere p).2 }).2 := by
  have hfilter : Retains b { b with pending := (b.pending.takeWhere p).2 } :=
    Retains.of_filter rfl rfl
  exact hfilter.trans ((spares_conclude now .failed .failure (some reason)).retains _ _)

theorem presence_observeStatus (device : String) (status : Summary) :
    (b.observeStatus now device status).presence = b.presence := by
  simp only [observeStatus]
  split <;> rfl

theorem retains_handleState (s : State) : Retains b (b.handleState now s).2 := by
  rw [handleState_eq]
  have hnoted : Retains b
      { b.noted now s with pending := (b.pending.correlate s).2 } := by
    refine ⟨fun hc => (List.mem_filter.mp hc).1, fun honline => ?_⟩
    show (b.noted now s).presence.isOnline _ = true
    simp only [noted, presence_observeStatus]
    exact Presence.isOnline_setOnline honline now.instant s.serialNumber (some s.manufacturer)
  exact hnoted.trans ((spares_settle now).retains _ _)

theorem retains_updateOrder (orderId : String) (status : Status) (message : Option String) :
    Retains b (b.updateOrder now orderId status message).2 := by
  unfold updateOrder
  split <;> exact Retains.of_same rfl rfl

theorem retains_cancelOrder (orderId : String) :
    Retains b (b.cancelOrder now orderId).2 := by
  have hupdate := retains_updateOrder now b orderId .cancelled (some cancelReason)
  unfold cancelOrder
  split
  · rename_i r next hresult
    rw [hresult] at hupdate
    split
    · exact hupdate
    · apply hupdate.trans
      rw [rest_report]
      exact Retains.of_filter rfl rfl
  · exact hupdate

theorem retains_finish (t : Ticket) (sent : Except Transport.Failure Unit) :
    Retains b (b.finish now t sent).2 := by
  unfold finish
  split
  · exact Retains.of_filter rfl rfl
  · exact Retains.of_same rfl rfl

/-- The commands of a robot that goes are gone with it. -/
theorem AwaitsPresent.handleConnection {now : Time.Moment} {b : Bridge}
    (hb : b.AwaitsPresent) (c : Connection) : (b.handleConnection now c).2.AwaitsPresent := by
  unfold Bridge.handleConnection
  cases honline : c.status.isOnline with
  | true =>
      rw [if_pos rfl]
      apply hb.retains
      refine ⟨id, fun hdevice => ?_⟩
      simp only [Presence.observeConnection, honline, if_true]
      exact Presence.isOnline_setOnline hdevice now.instant c.serialNumber
        (some c.manufacturer)
  | false =>
      rw [if_neg Bool.false_ne_true]
      simp only [failDevice, failCommands]
      rw [(spares_conclude now .failed .failure _).forEach.rest]
      intro d hd
      rcases List.mem_filter.mp hd with ⟨hmem, hother⟩
      have hne : d.device ≠ c.serialNumber := by simpa using hother
      simp only [Presence.observeConnection, honline, Bool.false_eq_true, if_false]
      rw [Presence.isOnline_setOffline_of_ne hne]
      exact hb d hmem

theorem isOnline_of_start {now : Time.Moment} {device : String}
    {via : Option Transport.Kind} {command : Command} {b b' : Bridge} {t : Ticket}
    (h : b.start now device via command = (.ok t, b')) :
    b.presence.isOnline device = true := by
  cases honline : b.presence.isOnline device with
  | true => rfl
  | false =>
      cases command with
      | order templateId overrides =>
          simp only [start, honline, Bool.false_eq_true, if_false] at h
          split at h <;> cases h
      | _ =>
          simp only [start, honline, Bool.false_eq_true, if_false] at h
          cases h

/-- A command is registered for the robot that was found to be there. -/
theorem AwaitsPresent.start {now : Time.Moment} {b : Bridge} (hb : b.AwaitsPresent)
    (device : String) (via : Option Transport.Kind) (command : Command) :
    (b.start now device via command).2.AwaitsPresent := by
  have honline := @isOnline_of_start now device via command b
  have hissues := issues_start now device via command b
  generalize b.start now device via command = result at hissues honline
  cases hissues with
  | missing => exact hb
  | offline => exact hb
  | taken => exact hb
  | @issued envelope t b' h =>
      have hpresence : b'.presence = b.presence := by rw [h.rest]
      have hpending := h.pending
      cases htext : command.text? with
      | none =>
          rw [htext] at hpending
          exact hb.retains (Retains.of_same hpending hpresence)
      | some text =>
          rw [htext] at hpending
          intro c hc
          rw [hpending] at hc
          rw [hpresence]
          rcases List.mem_append.mp hc with hold | hnew
          · exact hb c (List.mem_filter.mp hold).1
          · rw [List.mem_singleton.mp hnew]
            exact honline rfl

end

namespace World

/-- Whether robots come and go is nobody else's business. -/
def Deed.KeepsPresence : Deed → Prop
  | .elsewhere f => ∀ b device, (f b).presence.isOnline device = b.presence.isOnline device
  | _ => True

theorem awaitsPresent_step {w : World} (hw : w.bridge.AwaitsPresent) (now : Time.Moment)
    {deed : Deed} (hdeed : deed.KeepsPresence) : (w.step now deed).bridge.AwaitsPresent := by
  cases deed with
  | start device via command =>
      have hstart : (w.bridge.start now device via command).2.AwaitsPresent :=
        hw.start device via command
      simp only [step]
      split
      · rename_i hresult
        rw [hresult] at hstart
        exact hstart
      · rename_i hresult
        rw [hresult] at hstart
        exact hstart
  | finish orderId sent =>
      cases hflight : w.flight? orderId with
      | none =>
          simp only [step, hflight]
          exact hw
      | some f =>
          rcases flight?_eq_some hflight with ⟨_, rfl⟩
          rcases exists_step_finish now hflight sent with ⟨returned, hstep⟩
          rw [hstep]
          exact hw.retains (retains_finish now w.bridge f.ticket sent)
  | abandon orderId =>
      simp only [step]
      split
      · exact hw
      · exact hw.retains (Retains.of_same rfl rfl)
  | state s => exact hw.retains (retains_handleState now w.bridge s)
  | connection c => exact hw.handleConnection c
  | factsheet f =>
      intro c hc
      exact (Presence.isOnline_observeFactsheet _ _ _ _ _).trans (hw c hc)
  | expire ttl => exact hw.retains (retains_failCommands now w.bridge _ _)
  | failAll reason => exact hw.retains (retains_failCommands now w.bridge _ _)
  | failDevice device reason => exact hw.retains (retains_failCommands now w.bridge _ _)
  | update orderId status message =>
      exact hw.retains (retains_updateOrder now w.bridge orderId status message)
  | cancel orderId => exact hw.retains (retains_cancelOrder now w.bridge orderId)
  | recover =>
      simp only [step]
      split <;> exact hw
  | elsewhere f =>
      intro c hc
      exact (hdeed w.bridge c.device).trans (hw c hc)

theorem awaitsPresent_run {w : World} (hw : w.bridge.AwaitsPresent) {deeds : List Entry}
    (hdeeds : ∀ e ∈ deeds, e.2.KeepsPresence) : (w.run deeds).bridge.AwaitsPresent := by
  induction deeds generalizing w with
  | nil => exact hw
  | cons e deeds ih =>
      rcases List.forall_mem_cons.mp hdeeds with ⟨he, hrest⟩
      exact ih (awaitsPresent_step hw e.1 he) hrest

/-- In no run from a bridge without pending commands does a robot that is not there have
one. -/
theorem ofDevice_eq_nil_of_absent {b : Bridge} (hb : b.pending = .empty)
    {deeds : List Entry} (hdeeds : ∀ e ∈ deeds, e.2.KeepsPresence) {device : String}
    (habsent : ((calm b).run deeds).bridge.presence.isOnline device = false) :
    ((calm b).run deeds).bridge.pending.ofDevice device = [] := by
  have hcalm : (calm b).bridge.AwaitsPresent := by
    intro c hc
    exact absurd hc (Pending.not_mem_of_eq_empty hb c)
  have hrun := awaitsPresent_run hcalm hdeeds
  rw [List.eq_nil_iff_forall_not_mem]
  intro c hc
  simp only [Pending.ofDevice, Pending.oldestFirst, List.mem_mergeSort, List.mem_filter,
    beq_iff_eq] at hc
  have hpresent := hrun c hc.1
  rw [hc.2, habsent] at hpresent
  cases hpresent

/-- The robot goes while a payload for it is on its way, which the transport then reports
delivered. -/
def goneUnderway : List Entry :=
  underway ++
    [ (second 3,
        .connection
          { headerId := 1, timestamp := none, manufacturer := "acme",
            serialNumber := "agv-01", status := .broken }),
      (second 4, .finish "raw-1" (.ok ())) ]

theorem ofDevice_eq_nil_of_absent_goneUnderway :
    ((calm idle).run underway).bridge.pending.ofDevice "agv-01" ≠ [] ∧
      ((calm idle).run goneUnderway).bridge.presence.isOnline "agv-01" = false ∧
      ((calm idle).run goneUnderway).bridge.pending.ofDevice "agv-01" = [] := by
  have hdeeds : ∀ e ∈ goneUnderway, e.2.KeepsPresence := by
    intro e he
    simp only [goneUnderway, underway, List.cons_append, List.nil_append, List.mem_cons,
      List.not_mem_nil, or_false] at he
    rcases he with rfl | rfl | rfl | rfl <;> trivial
  have habsent : ((calm idle).run goneUnderway).bridge.presence.isOnline "agv-01" = false := by
    decide +kernel
  exact ⟨by decide +kernel, habsent, ofDevice_eq_nil_of_absent rfl hdeeds habsent⟩

end World
end Bridge
end FleetBridge
