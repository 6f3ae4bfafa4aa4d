import FleetBridge.Proofs.Record.Change
import FleetBridge.Proofs.Record.Recovery

/-!
# Moves that may be refused

Whether a move takes place is decided by the row alone: it must be readable, the lifecycle
must admit the move, and the moved row must be readable again.  So a move is a function of
the row, whatever the store around it, and moves of different orders do not get in each
other's way.
-/

namespace FleetBridge
namespace Record

namespace Row

/-- A row after a move, if the move takes place. -/
def advanced (now : Time.Instant) (status : Status) (message : Option String) (row : Row) :
    Row :=
  match row.record with
  | .error _ => row
  | .ok r =>
      if r.status.admits status then
        match (row.moved now status message).record with
        | .error _ => row
        | .ok _ => row.moved now status message
      else row

theorem advanced_eq_or (now : Time.Instant) (status : Status) (message : Option String)
    (row : Row) :
    row.advanced now status message = row ∨
      row.advanced now status message = row.moved now status message := by
  unfold advanced
  split
  · exact Or.inl rfl
  · split
    · split
      · exact Or.inl rfl
      · exact Or.inr rfl
    · exact Or.inl rfl

theorem orderId_advanced (now : Time.Instant) (status : Status) (message : Option String)
    (row : Row) : (row.advanced now status message).orderId = row.orderId := by
  rcases row.advanced_eq_or now status message with h | h
  · rw [h]
  · rw [h]
    exact orderId_moved now status message row

end Row

namespace Store

theorem modify_congr {s : Store} {orderId : String} {f g : Row → Row}
    (hf : ∀ r, (f r).orderId = r.orderId) (hg : ∀ r, (g r).orderId = r.orderId)
    (h : ∀ row, s.row? orderId = some row → f row = g row) :
    s.modify orderId f hf = s.modify orderId g hg := by
  apply ext_rows
  apply List.map_congr_left
  intro row hmem
  by_cases hid : row.orderId = orderId
  · subst hid
    rw [if_pos rfl, if_pos rfl]
    exact h row (row?_of_mem hmem)
  · rw [if_neg hid, if_neg hid]

theorem modify_eq_self {s : Store} {orderId : String} {f : Row → Row}
    (hf : ∀ r, (f r).orderId = r.orderId)
    (h : ∀ row, s.row? orderId = some row → f row = row) : s.modify orderId f hf = s := by
  rw [modify_congr hf (fun _ => rfl) h]
  apply ext_rows
  show s.rows.map (fun r => if r.orderId = orderId then r else r) = s.rows
  simp only [ite_self, List.map_id']

theorem modify_comm {s : Store} {orderId other : String} (h : orderId ≠ other)
    {f g : Row → Row} (hf : ∀ r, (f r).orderId = r.orderId)
    (hg : ∀ r, (g r).orderId = r.orderId) :
    (s.modify orderId f hf).modify other g hg = (s.modify other g hg).modify orderId f hf := by
  apply ext_rows
  simp only [modify, map, List.map_map]
  apply List.map_congr_left
  intro row _
  simp only [Function.comp]
  by_cases hid : row.orderId = orderId
  · simp only [hid, if_true, hf, if_neg h]
  · by_cases hother : row.orderId = other
    · simp only [hother, if_true, hg, if_neg (Ne.symm h)]
    · simp only [if_neg hid, if_neg hother]

def advance (now : Time.Instant) (orderId : String) (status : Status)
    (message : Option String) (s : Store) : Store :=
  s.modify orderId (Row.advanced now status message) (Row.orderId_advanced now status message)

theorem advance_eq_self {now : Time.Instant} {orderId : String} {status : Status}
    {message : Option String} {s : Store}
    (h : ∀ row, s.row? orderId = some row → row.advanced now status message = row) :
    s.advance now orderId status message = s :=
  modify_eq_self _ h

theorem update_of_absent {orderId : String} {s : Store} (h : s.row? orderId = none)
    (now : Time.Instant) (status : Status) (message : Option String) :
    s.update now orderId status message = .error (.notFound orderId) := by
  simp only [update, transition, get_eq_notFound_iff.mpr h]
  rfl

theorem update_of_unreadable {orderId : String} {s : Store} {row : Row} {why : Unreadable}
    (hrow : s.row? orderId = some row) (hr : row.record = .error why) (now : Time.Instant)
    (status : Status) (message : Option String) :
    s.update now orderId status message = .error (.unreadable why) := by
  simp only [update, transition, get, hrow, read, hr]
  rfl

/-- A move that the lifecycle admits is taken back if the row cannot be read afterwards. -/
theorem advance_eq_of_admits {now : Time.Instant} {orderId : String} {status : Status}
    {s : Store} {row : Row} {r : Record} (hrow : s.row? orderId = some row)
    (hr : row.record = .ok r) (ha : r.status.admits status = true) (message : Option String) :
    s.advance now orderId status message =
      match s.update now orderId status message with
      | .ok (_, t) => t
      | .error _ => s := by
  have htransition : s.transition now orderId status message = .ok _ :=
    transition_eq_ok_iff.mpr ⟨row, r, hrow, hr, ha, rfl⟩
  have hmoved := row?_modify_self (Row.orderId_moved now status message) s orderId
  rw [hrow, Option.map_some] at hmoved
  simp only [update, htransition, bind, Except.bind, get, hmoved, read]
  cases hr' : (row.moved now status message).record with
  | error why =>
      apply advance_eq_self
      intro old hold
      rw [hrow] at hold
      cases hold
      simp only [Row.advanced, hr, ha, hr', if_true]
  | ok r' =>
      apply modify_congr
      intro old hold
      rw [hrow] at hold
      cases hold
      simp only [Row.advanced, hr, ha, hr', if_true]

theorem advance_eq (now : Time.Instant) (orderId : String) (status : Status)
    (message : Option String) (s : Store) :
    s.advance now orderId status message =
      match s.update now orderId status message with
      | .ok (_, t) => t
      | .error _ => s := by
  cases hrow : s.row? orderId with
  | none =>
      rw [update_of_absent hrow]
      apply advance_eq_self
      intro row hsome
      rw [hrow] at hsome
      cases hsome
  | some row =>
  cases hr : row.record with
  | error why =>
      rw [update_of_unreadable hrow hr]
      apply advance_eq_self
      intro old hold
      rw [hrow] at hold
      cases hold
      simp only [Row.advanced, hr]
  | ok r =>
  cases ha : r.status.admits status with
  | true => exact advance_eq_of_admits hrow hr ha message
  | false =>
      rw [update_of_refused hrow hr ha]
      apply advance_eq_self
      intro old hold
      rw [hrow] at hold
      cases hold
      simp only [Row.advanced, hr, ha]
      rfl

theorem row?_advance_of_ne {orderId other : String} (h : other ≠ orderId) (now : Time.Instant)
    (status : Status) (message : Option String) (s : Store) :
    (s.advance now orderId status message).row? other = s.row? other :=
  row?_modify_of_ne (Row.orderId_advanced now status message) s h

end Store
end Record
end FleetBridge
