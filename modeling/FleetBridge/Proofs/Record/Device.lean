import FleetBridge.Proofs.Record.Advance

/-!
# Whose record it is

A record is for one robot from its beginning on.  Whatever is done to it later, and whether
or not it can be read, the robot remains; only discarding a dispatch takes a record away.
-/

namespace FleetBridge
namespace Record

theorem Row.device_advanced (now : Time.Instant) (status : Status) (message : Option String)
    (row : Row) : (row.advanced now status message).device = row.device := by
  rcases row.advanced_eq_or now status message with h | h
  · rw [h]
  · rw [h]
    rfl

theorem Row.Change.device {now : Time.Instant} {row row' : Row} (h : row.Change now row') :
    row'.device = row.device := by
  cases h with
  | kept => rfl
  | landed => rfl
  | moved => rfl
  | settled => rfl

namespace Store

def device? (orderId : String) (s : Store) : Option String :=
  (s.row? orderId).map (fun row => row.device)

theorem device?_of_row? {s : Store} {orderId : String} {row : Row}
    (h : s.row? orderId = some row) : s.device? orderId = some row.device := by
  rw [device?, h]
  rfl

theorem device?_eq_none_iff {s : Store} {orderId : String} :
    s.device? orderId = none ↔ s.row? orderId = none :=
  Option.map_eq_none_iff

theorem device?_congr {s t : Store} {orderId : String}
    (h : t.row? orderId = s.row? orderId) : t.device? orderId = s.device? orderId := by
  rw [device?, h]
  rfl

theorem device?_of_get {s : Store} {orderId : String} {r : Record}
    (h : s.get orderId = .ok r) : s.device? orderId = some r.device := by
  rcases get_eq_ok_iff.mp h with ⟨row, hrow, hr⟩
  rcases Columns.record_eq_ok_iff.mp hr with ⟨_, _, _, _, _, _, _, _, rfl⟩
  exact device?_of_row? hrow

/-!
# What leaves the robot alone
-/

theorem device?_modify {f : Row → Row} (hf : ∀ r, (f r).orderId = r.orderId)
    (hdevice : ∀ r, (f r).device = r.device) (s : Store) (orderId other : String) :
    (s.modify orderId f hf).device? other = s.device? other := by
  by_cases hid : other = orderId
  · subst hid
    unfold device?
    rw [row?_modify_self, Option.map_map]
    congr 1
    funext row
    exact hdevice row
  · exact device?_congr (row?_modify_of_ne hf s hid)

theorem device?_advance (now : Time.Instant) (orderId : String) (status : Status)
    (message : Option String) (s : Store) (other : String) :
    (s.advance now orderId status message).device? other = s.device? other :=
  device?_modify _ (Row.device_advanced now status message) s orderId other

theorem device?_settle (now : Time.Instant) (orderId : String) (status : Status)
    (message : Option String) (s : Store) (other : String) :
    (s.settle now orderId status message).2.device? other = s.device? other := by
  have hland : (s.land orderId).device? other = s.device? other :=
    device?_modify Row.orderId_land (fun _ => rfl) s orderId other
  simp only [settle]
  cases htransition : (s.land orderId).transition now orderId status message with
  | error e => exact hland
  | ok moved =>
      rcases transition_eq_ok_iff.mp htransition with ⟨_, _, _, _, _, rfl⟩
      have hmoved := device?_modify (Row.orderId_moved now status message) (fun _ => rfl)
        (s.land orderId) orderId other
      exact hmoved.trans hland

theorem Changes.device? {now : Time.Instant} {s t : Store} (h : Changes now s t)
    (orderId : String) : t.device? orderId = s.device? orderId := by
  cases hrow : s.row? orderId with
  | none =>
      rw [device?_eq_none_iff.mpr hrow]
      exact device?_eq_none_iff.mpr (h.absent hrow)
  | some row =>
      rcases h.row hrow with ⟨row', hrow', hchange⟩
      rw [device?_of_row? hrow, device?_of_row? hrow', hchange.device]

/-!
# Beginning and discarding
-/

theorem device?_of_begin {now : Time.Instant} {d : Draft} {s t : Store}
    (h : s.begin now d = .ok t) (orderId : String) :
    t.device? orderId = if orderId = d.orderId then some d.device else s.device? orderId := by
  have hrow := row?_of_begin h orderId
  by_cases hid : orderId = d.orderId
  · rw [if_pos hid] at hrow ⊢
    exact device?_of_row? hrow
  · rw [if_neg hid] at hrow ⊢
    exact device?_congr hrow

theorem device?_discard_self (s : Store) (orderId : String) :
    (s.discard orderId).device? orderId =
      if (s.row? orderId).any Row.isStranded then none else s.device? orderId := by
  unfold device?
  rw [row?_discard_self]
  cases s.row? orderId with
  | none => rfl
  | some row =>
      simp only [Option.any_some, Option.bind_some, Option.map_some]
      cases row.isStranded <;> rfl

end Store
end Record
end FleetBridge
