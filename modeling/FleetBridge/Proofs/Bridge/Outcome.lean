import FleetBridge.Proofs.Bridge.World

/-!
# A dispatch that has returned leaves nothing undecided

Whatever happened while the payload was on its way, the row of the order is in flight
no more when the caller has its answer, and the answer agrees with the record.
-/

namespace FleetBridge
namespace Bridge

open Message Record

/-- What holds of an order when its dispatch has returned with an answer, `before` being
the bridge when the transport had answered.  No other answer is given. -/
def Decided (before b : Bridge) (orderId : String) : Except Error Dispatched → Prop
  | .ok d =>
      ∃ r, b.store.get orderId = .ok r ∧ r.status ≠ .created ∧ d.status = r.status
  | .error (.transport .cancelled) =>
      b.pending.find? orderId = none ∧
        (b.store.get orderId = .error (.notFound orderId) ∨
          ∃ r, before.store.get orderId = .ok r ∧ r.status ≠ .created ∧
            b.store.get orderId = .ok r)
  | .error (.transport _) =>
      b.pending.find? orderId = none ∧
        ∃ r, b.store.get orderId = .ok r ∧
          (r.status = .completed ∨ r.status = .failed ∨ r.status = .cancelled)
  | .error _ => False

theorem decided_transport {before b : Bridge} {orderId : String} {failure : Transport.Failure}
    (hfailure : failure ≠ .cancelled) (hpending : b.pending.find? orderId = none) {r : Record}
    (hget : b.store.get orderId = .ok r) (hfinal : r.status.isFinal = true) :
    Decided before b orderId (.error (.transport failure)) := by
  have hover := Status.isFinal_iff.mp hfinal
  cases failure with
  | cancelled => exact absurd rfl hfailure
  | _ => exact ⟨hpending, r, hget, hover⟩

theorem Ends.decided {before b : Bridge} {orderId : String} {r : Record}
    {answer : Except Error Dispatched} (h : Ends before orderId r answer b)
    (hget : before.store.get orderId = .ok r) : Decided before b orderId answer := by
  cases h with
  | sent hrow _ hr hcreated hstatus => exact ⟨_, Store.get_of_row? hrow hr, hcreated, hstatus⟩
  | withdrawn hrow hpending => exact ⟨hpending, Or.inl (Store.get_eq_notFound_iff.mpr hrow)⟩
  | overruled hrow _ hr hcreated hpending =>
      exact ⟨hpending, Or.inr ⟨r, hget, hcreated, Store.get_of_row? hrow hr⟩⟩
  | failed hfailure hrow _ hr hfinal hpending =>
      exact decided_transport hfailure hpending (Store.get_of_row? hrow hr) hfinal

theorem Ends.landed {before b : Bridge} {orderId : String} {r : Record}
    {answer : Except Error Dispatched} (h : Ends before orderId r answer b) {row : Row}
    (hrow : b.store.row? orderId = some row) : row.inFlight = false := by
  cases h with
  | sent hfound hlanded =>
      rw [hfound] at hrow
      cases hrow
      exact hlanded
  | withdrawn hfound =>
      rw [hfound] at hrow
      cases hrow
  | overruled hfound hlanded =>
      rw [hfound] at hrow
      cases hrow
      exact hlanded
  | failed _ hfound hlanded =>
      rw [hfound] at hrow
      cases hrow
      exact hlanded

/-- A dispatch that is under way after any run returns with its order decided. -/
theorem decided_of_finish {b : Bridge} {deeds : List World.Entry}
    (hdeeds : Time.AllDatable deeds) {f : Flight}
    (hf : f ∈ ((World.calm b).run deeds).flights) {now : Time.Moment} (hnow : now.IsDatable)
    (sent : Except Transport.Failure Unit) :
    let before := ((World.calm b).run deeds).bridge
    let result := before.finish now f.ticket sent
    Decided before result.2 f.orderId result.1 ∧
      ∀ row, result.2.store.row? f.orderId = some row → row.inFlight = false := by
  intro before result
  have hsound := (World.sound_calm b).run hdeeds
  rcases World.ends_of_flight hsound hnow hf sent with ⟨row, r, hcarried, hends⟩
  constructor
  · exact hends.decided (Store.get_of_row? hcarried.found hcarried.read)
  · intro row hrow
    exact hends.landed hrow

def idle : Bridge :=
  fresh .empty (.of "acme") .standard .queue
    { stream := fun _ => { value := 0 }, drawn := 0 }

def second (n : Nat) : Time.Moment :=
  { wall := n * 1000000000, elapsed := n * 1000000000 }

/-- A robot comes online and is sent an order with one action. -/
def underway : List World.Entry :=
  [ (second 1,
      .connection
        { headerId := 0, timestamp := none, manufacturer := "acme", serialNumber := "agv-01",
          status := .online }),
    (second 2,
      .start "agv-01" none <|
        .rawOrder "raw-1" 0
          { nodes :=
              [ { nodeId := "n", sequenceId := 0, released := true, position := none,
                  actions :=
                    [ { actionType := "pick", actionId := "a", description := none,
                        blocking := .hard, parameters := [] } ] } ]
            edges := [] }
          "raw order") ]

def delivered : List World.Entry :=
  underway ++ [(second 3, .finish "raw-1" (.ok ()))]

def picked : State :=
  { headerId := 0, timestamp := none, manufacturer := "acme", serialNumber := "agv-01",
    orderId := "raw-1", orderUpdateId := 0, lastNodeId := "n", driving := false,
    paused := false, operatingMode := none,
    actionStates :=
      [ { actionId := "a", actionType := none, status := .finished,
          resultDescription := none } ]
    faults := [] }

def cancelledUnderway : List World.Entry :=
  underway ++ [(second 3, .cancel "raw-1")]

theorem decided_of_finish_cancelled :
    ∃ f ∈ ((World.calm idle).run cancelledUnderway).flights,
      let before := ((World.calm idle).run cancelledUnderway).bridge
      let result := before.finish (second 4) f.ticket (.ok ())
      result.1.map Dispatched.status = .ok .cancelled ∧
        Decided before result.2 f.orderId result.1 ∧
        ∀ row, result.2.store.row? f.orderId = some row → row.inFlight = false := by
  have hdeeds : Time.AllDatable cancelledUnderway := by decide +kernel
  have hnow : (second 4).IsDatable := by decide +kernel
  have hflights : ((World.calm idle).run cancelledUnderway).flights ≠ [] := by decide +kernel
  have hstatus : ∀ f ∈ ((World.calm idle).run cancelledUnderway).flights,
      (((World.calm idle).run cancelledUnderway).bridge.finish (second 4) f.ticket
        (.ok ())).1.map Dispatched.status = .ok .cancelled := by decide +kernel
  rcases List.exists_mem_of_ne_nil _ hflights with ⟨f, hf⟩
  exact ⟨f, hf, hstatus f hf, decided_of_finish hdeeds hf hnow (.ok ())⟩

end Bridge
end FleetBridge
