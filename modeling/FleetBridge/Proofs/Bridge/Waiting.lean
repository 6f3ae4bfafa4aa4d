import FleetBridge.Proofs.Bridge.Outcome

/-!
# Commands that wait for their robot

A direct command whose dispatch has returned, and whose record says that the robot has
it, is pending still, unless the robot was faster than the transport: a state that
reports the command done before the dispatch has returned takes it from the pending
ones, and its record, being new, does not follow.
-/

namespace FleetBridge
namespace Bridge

open Message Record

/-- Of the direct commands that have been sent, exactly those that were not overtaken are
still pending, as they were registered. -/
theorem pending_iff_not_overtaken {b : Bridge} {deeds : List World.Entry}
    (hdeeds : Time.AllDatable deeds) {f : Flight}
    (hf : f ∈ ((World.calm b).run deeds).returned) (hdirect : f.direct = true) {r : Record}
    (hget : ((World.calm b).run deeds).bridge.store.get f.orderId = .ok r)
    (hstatus : r.status = .sent ∨ r.status = .started) :
    ∃ c, f.entry = some c ∧ c.key = f.orderId ∧ c.device = f.ticket.device ∧
      (((World.calm b).run deeds).bridge.pending.find? f.orderId = some c ↔
        f.overtaken = false) ∧
      (((World.calm b).run deeds).bridge.pending.find? f.orderId = none ↔
        f.overtaken = true) := by
  have hsound := (World.sound_calm b).run hdeeds
  rcases hsound.returned hf with ⟨row, r', hcarried, _⟩
  have hread := Store.get_of_row? hcarried.found hcarried.read
  rw [hread] at hget
  cases hget
  have hopen : r.status.isFinal = false := by
    rcases hstatus with h | h <;> rw [h] <;> rfl
  rcases hcarried.entry hdirect with ⟨c, hentry, hkey, hdevice⟩
  have hwaiting : f.overtaken = false →
      ((World.calm b).run deeds).bridge.pending.find? f.orderId = some c := by
    intro hnot
    rcases hcarried.waiting hnot with hwaiting | hfinal
    · exact hwaiting.trans hentry
    · rw [hopen] at hfinal
      cases hfinal
  refine ⟨c, hentry, hkey, hdevice, ?_⟩
  cases hovertaken : f.overtaken with
  | false => simp [hwaiting hovertaken]
  | true => simp [hcarried.lost hovertaken]

/-- The transport answers before the robot does. -/
def sentFirst : List World.Entry :=
  underway ++ [(second 3, .finish "raw-1" (.ok ()))]

theorem pending_iff_not_overtaken_sentFirst :
    ∃ f ∈ ((World.calm idle).run sentFirst).returned, f.overtaken = false ∧
      ∃ c, f.entry = some c ∧
        ((World.calm idle).run sentFirst).bridge.pending.find? f.orderId = some c := by
  have hdeeds : Time.AllDatable sentFirst := by decide +kernel
  have hreturned : ((World.calm idle).run sentFirst).returned ≠ [] := by decide +kernel
  have hfacts : ∀ f ∈ ((World.calm idle).run sentFirst).returned,
      f.direct = true ∧ f.overtaken = false ∧
        (((World.calm idle).run sentFirst).bridge.store.get f.orderId).map Record.status =
          .ok .sent := by decide +kernel
  rcases List.exists_mem_of_ne_nil _ hreturned with ⟨f, hf⟩
  rcases hfacts f hf with ⟨hdirect, hovertaken, hstatus⟩
  rcases Store.exists_get_of_status hstatus with ⟨r, hget, hsent⟩
  rcases pending_iff_not_overtaken hdeeds hf hdirect hget (Or.inl hsent) with
    ⟨c, hentry, _, _, hpending, _⟩
  exact ⟨f, hf, hovertaken, c, hentry, hpending.mpr hovertaken⟩

/-- The robot reports the action done before the transport answers. -/
def robotFirst : List World.Entry :=
  underway ++
    [ (second 3,
        .state
          { headerId := 0, timestamp := none, manufacturer := "acme",
            serialNumber := "agv-01", orderId := "raw-1", orderUpdateId := 0,
            lastNodeId := "n", driving := false, paused := false, operatingMode := none,
            actionStates :=
              [ { actionId := "a", actionType := none, status := .finished,
                  resultDescription := none } ]
            faults := [] }),
      (second 4, .finish "raw-1" (.ok ())) ]

/-- A bridge that begins with nothing may leave a direct command sent for ever. -/
theorem not_pending_robotFirst :
    ¬ ∀ {b : Bridge} {deeds : List World.Entry}, b.store = .empty → b.pending = .empty →
      Time.AllDatable deeds → ∀ {f r}, f ∈ ((World.calm b).run deeds).returned →
      f.direct = true → ((World.calm b).run deeds).bridge.store.get f.orderId = .ok r →
      r.status = .sent ∨ r.status = .started →
      ∃ c, ((World.calm b).run deeds).bridge.pending.find? f.orderId = some c := by
  intro hclaim
  have hdeeds : Time.AllDatable robotFirst := by decide +kernel
  have hreturned : ((World.calm idle).run robotFirst).returned ≠ [] := by decide +kernel
  have hfacts : ∀ f ∈ ((World.calm idle).run robotFirst).returned,
      f.direct = true ∧
        ((World.calm idle).run robotFirst).bridge.pending.find? f.orderId = none ∧
        (((World.calm idle).run robotFirst).bridge.store.get f.orderId).map Record.status =
          .ok .sent := by decide +kernel
  rcases List.exists_mem_of_ne_nil _ hreturned with ⟨f, hf⟩
  rcases hfacts f hf with ⟨hdirect, hnone, hstatus⟩
  rcases Store.exists_get_of_status hstatus with ⟨r, hget, hsent⟩
  rcases hclaim rfl rfl hdeeds hf hdirect hget (Or.inl hsent) with ⟨c, hc⟩
  rw [hnone] at hc
  cases hc

end Bridge
end FleetBridge
