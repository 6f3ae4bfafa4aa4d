import FleetBridge.Inbound
import FleetBridge.Proofs.Bridge.Independence
import FleetBridge.Proofs.Text.Utf8

/-!
# Whose message it is

A message comes in on the topic of one robot, and a state or a connection names a robot
once more.  The bridge goes by the second name, and does not compare it with the first: such
a message is confined to the robot that it names, whoever sent it.  A factsheet is confined
to the robot of its topic.
-/

namespace FleetBridge

open Message

namespace Inbound

theorem exists_origin_of_event? {resolver : Destination.Resolver} {now : Time.Instant}
    {id : Uuid} {topic : String} {bytes : List UInt8} {e : Event}
    (h : event? resolver now id topic bytes = some e) :
    ∃ origin, resolver.origin? topic = some origin ∧ payload? origin bytes = some e.payload := by
  unfold event? at h
  rcases Option.bind_eq_some_iff.mp h with ⟨origin, horigin, hrest⟩
  rcases Option.bind_eq_some_iff.mp hrest with ⟨payload, hpayload, he⟩
  cases he
  exact ⟨origin, horigin, hpayload⟩

theorem device_of_payload? {origin : Destination.Resolver.Origin} {bytes : List UInt8}
    {payload : Payload} (h : payload? origin bytes = some payload)
    (hkind : origin.kind = .factsheet) : payload.device = origin.device := by
  simp only [payload?, hkind] at h
  rcases Option.map_eq_some_iff.mp h with ⟨document, _, rfl⟩
  rfl

/-- The robot of a topic has no say in what is read, unless it is a factsheet. -/
theorem payload?_of_ne {origin : Destination.Resolver.Origin} (h : origin.kind ≠ .factsheet)
    (device : String) (bytes : List UInt8) :
    payload? { origin with device } bytes = payload? origin bytes := by
  unfold payload?
  cases hkind : origin.kind with
  | factsheet => exact absurd hkind h
  | _ => rfl

end Inbound

namespace Bridge

open Record

theorem Confined.refl (device : String) (b : Bridge) : Confined device b b where
  settings := rfl
  view _ _ := rfl
  said _ _ := rfl
  record _ _ _ := Iff.rfl

theorem confined_handleEvent {b : Bridge} (hb : b.Owned) (now : Time.Moment) (e : Event) :
    Confined e.payload.device b (b.handleEvent now e) := by
  unfold handleEvent
  cases e.payload with
  | state s => exact confined_handle hb now (.state s)
  | connection c => exact confined_handle hb now (.connection c)
  | factsheet f => exact confined_handle hb now (.factsheet f)
  | statusChanged c => exact Confined.refl c.device b
  | commandResult r => exact Confined.refl r.device b

/-- In every run, a message that comes in changes nothing but what is of the robot that it
names.  That is the robot of its topic if it is a factsheet, or if the two names are the
same; the robot of the topic has no say in it otherwise. -/
theorem confined_inbound {b : Bridge} (hb : b.pending = .empty) {deeds : List World.Entry}
    (hfresh : (∃ e ∈ deeds, e.2.isAbandon = true) →
      (World.calm b).drawsFresh deeds = true)
    {resolver : Destination.Resolver} {received : Time.Instant} {id : Uuid} {topic : String}
    {bytes : List UInt8} {e : Event}
    (h : Inbound.event? resolver received id topic bytes = some e) (now : Time.Moment) :
    let before := ((World.calm b).run deeds).bridge
    let after := before.handleEvent now e
    Confined e.payload.device before after ∧
      ∃ origin, resolver.origin? topic = some origin ∧
        (e.payload.device = origin.device → Confined origin.device before after) ∧
        (origin.kind = .factsheet → e.payload.device = origin.device) ∧
        (origin.kind ≠ .factsheet → ∀ device,
          Inbound.payload? { origin with device } bytes = some e.payload) := by
  intro before after
  have howned : before.Owned := World.owned_run hb hfresh
  have hconfined := confined_handleEvent howned now e
  rcases Inbound.exists_origin_of_event? h with ⟨origin, horigin, hpayload⟩
  refine ⟨hconfined, origin, horigin, ?_, ?_, ?_⟩
  · intro hdevice
    exact hdevice ▸ hconfined
  · exact Inbound.device_of_payload? hpayload
  · intro hkind device
    rw [Inbound.payload?_of_ne hkind]
    exact hpayload

def farewell : String :=
  "\x7b\"serialNumber\":\"agv-01\",\"connectionState\":\"OFFLINE\"\x7d"

def received (topic : String) : Option Event :=
  Inbound.event? .standard (second 4).instant { value := 0 } topic farewell.toUTF8.toList

theorem confined_inbound_farewell :
    ∃ e, received "uagv/v2/acme/agv-01/connection" = some e ∧
      let before := ((World.calm idle).run delivered).bridge
      let after := before.handleEvent (second 4) e
      after.pending.commands = [] ∧ Confined "agv-01" before after := by
  have hnamed : (received "uagv/v2/acme/agv-01/connection").map (fun e => e.payload.device) =
      some "agv-01" := by decide +kernel
  rcases Option.map_eq_some_iff.mp hnamed with ⟨e, he, hdevice⟩
  have hstay : (∃ e ∈ delivered, e.2.isAbandon = true) →
      (World.calm idle).drawsFresh delivered = true := fun _ => by decide +kernel
  have hconfined := (confined_inbound rfl hstay he (second 4)).1
  rw [hdevice] at hconfined
  have hgone : (received "uagv/v2/acme/agv-01/connection").map
      (fun e => (((World.calm idle).run delivered).bridge.handleEvent (second 4)
        e).pending.commands) = some [] := by decide +kernel
  rw [he] at hgone
  exact ⟨e, he, Option.some.inj hgone, hconfined⟩

/-- On the topic of another robot the farewell does the same: the robot that is named goes,
its command is given up, and its record fails. -/
theorem not_confined_farewell :
    ∃ origin e, Destination.Resolver.standard.origin? "uagv/v2/acme/agv-02/connection" =
        some origin ∧
      origin.device = "agv-02" ∧ received "uagv/v2/acme/agv-02/connection" = some e ∧
      let before := ((World.calm idle).run delivered).bridge
      let after := before.handleEvent (second 4) e
      before.presence.isOnline "agv-01" = true ∧ after.presence.isOnline "agv-01" = false ∧
        before.waiting "agv-01" ≠ [] ∧ after.waiting "agv-01" = [] ∧
        (before.store.get "raw-1").map Record.status = .ok .sent ∧
        (after.store.get "raw-1").map Record.status = .ok .failed ∧
        ¬ Confined origin.device before after := by
  have horigin : (Destination.Resolver.standard.origin? "uagv/v2/acme/agv-02/connection").map
      (fun o => o.device) = some "agv-02" := by decide +kernel
  have hafter : (received "uagv/v2/acme/agv-02/connection").map (fun e =>
      let after := ((World.calm idle).run delivered).bridge.handleEvent (second 4) e
      (after.presence.isOnline "agv-01", after.waiting "agv-01",
        (after.store.get "raw-1").map Record.status)) = some (false, [], .ok .failed) := by
    decide +kernel
  have hwaiting : ((World.calm idle).run delivered).bridge.waiting "agv-01" ≠ [] := by
    decide +kernel
  rcases Option.map_eq_some_iff.mp horigin with ⟨origin, horigin, hdevice⟩
  rcases Option.map_eq_some_iff.mp hafter with ⟨e, he, hfacts⟩
  simp only [Prod.mk.injEq] at hfacts
  rcases hfacts with ⟨hgone, hnone, hfailed⟩
  refine ⟨origin, e, horigin, hdevice, he, by decide +kernel, hgone, hwaiting, hnone,
    by decide +kernel, hfailed, ?_⟩
  intro hconfined
  have hother : "agv-01" ≠ origin.device := by
    rw [hdevice]
    decide
  have hview := congrArg View.waiting (hconfined.view "agv-01" hother)
  exact hwaiting (hview.symm.trans hnone)

end Bridge
end FleetBridge
