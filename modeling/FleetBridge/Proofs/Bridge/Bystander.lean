import FleetBridge.Proofs.Bridge.Report

/-!
# What ending commands leaves alone

Ending a command moves its record and publishes its result, under an identifier drawn for
it.  Presence, the cache of statuses, the limiter and the status events published so far
stay as they are, however many commands end in one step.
-/

namespace FleetBridge

namespace Message

def Payload.statusChange? : Payload → Option StatusChange
  | .statusChanged c => some c
  | _ => none

end Message

namespace Bridge

open Message

def told (b : Bridge) : List StatusChange :=
  b.published.filterMap (fun e => e.payload.statusChange?)

theorem rest_report (now : Time.Moment) (r : CommandResult) (b : Bridge) :
    b.report now r =
      { b with
        uuids := (b.report now r).uuids
        published := (b.report now r).published } := by
  unfold report
  split <;> rfl

theorem told_report (now : Time.Moment) (r : CommandResult) (b : Bridge) :
    (b.report now r).told = b.told := by
  unfold report
  split
  · simp only [publish, draw, told, List.filterMap_append]
    exact List.append_nil _
  · rfl

/-- An operation that touches records and results only. -/
structure Spares {α β : Type} (f : α → Bridge → β × Bridge) : Prop where
  rest : ∀ a b, (f a b).2 =
    { b with
      store := (f a b).2.store
      uuids := (f a b).2.uuids
      published := (f a b).2.published }
  told : ∀ a b, (f a b).2.told = b.told

theorem spares_conclude (now : Time.Moment) (status : Record.Status) (verdict : Verdict)
    (message : Option String) : Spares (conclude now status verdict message) where
  rest c b := by
    simp only [conclude]
    rw [rest_report, rest_finalize]
  told c b := by
    simp only [conclude]
    rw [told_report, rest_finalize]
    rfl

theorem spares_settle (now : Time.Moment) : Spares (settle now) where
  rest d b := (spares_conclude now _ d.verdict d.message).rest d.command b
  told d b := (spares_conclude now _ d.verdict d.message).told d.command b

theorem Spares.forEach {α β : Type} {f : α → Bridge → β × Bridge} (h : Spares f) :
    Spares (fun (as : List α) b => Bridge.forEach f as b) where
  rest as b := by
    induction as generalizing b with
    | nil => rfl
    | cons a rest ih =>
        simp only [Bridge.forEach]
        rw [ih, h.rest]
  told as b := by
    induction as generalizing b with
    | nil => rfl
    | cons a rest ih =>
        simp only [Bridge.forEach]
        rw [ih, h.told]

end Bridge
end FleetBridge
