import FleetBridge.Proofs.Lookup
import FleetBridge.Proofs.Record.Row
import FleetBridge.Record.Store

/-!
# Looking up rows

A store is seen through the row of each order.  Every operation of the store is
described here by the rows that are found afterwards, so that nothing later looks
into the list of rows.
-/

namespace FleetBridge
namespace Record
namespace Store

theorem row?_eq_some_iff {s : Store} {orderId : String} {row : Row} :
    s.row? orderId = some row ↔ row ∈ s.rows ∧ row.orderId = orderId :=
  find?_key_eq_some_iff s.nodup

theorem orderId_of_row? {s : Store} {orderId : String} {row : Row}
    (h : s.row? orderId = some row) : row.orderId = orderId :=
  (row?_eq_some_iff.mp h).2

theorem row?_of_mem {s : Store} {row : Row} (h : row ∈ s.rows) :
    s.row? row.orderId = some row :=
  row?_eq_some_iff.mpr ⟨h, rfl⟩

theorem row?_map (f : Row → Row) (h : ∀ r, (f r).orderId = r.orderId) (s : Store)
    (orderId : String) : (s.map f h).row? orderId = (s.row? orderId).map f := by
  apply Option.ext
  intro row
  rw [row?_eq_some_iff]
  simp only [map, List.mem_map, Option.map_eq_some_iff, row?_eq_some_iff]
  constructor
  · intro hrow
    rcases hrow with ⟨⟨old, hold, rfl⟩, hid⟩
    exact ⟨old, ⟨hold, by rw [← h old, hid]⟩, rfl⟩
  · intro hrow
    rcases hrow with ⟨old, ⟨hold, hid⟩, rfl⟩
    exact ⟨⟨old, hold, rfl⟩, by rw [h old, hid]⟩

theorem row?_filter (p : Row → Bool) (s : Store) (orderId : String) :
    (s.filter p).row? orderId = (s.row? orderId).filter p :=
  find?_key_filter s.nodup p orderId

theorem row?_modify_self {f : Row → Row} (h : ∀ r, (f r).orderId = r.orderId) (s : Store)
    (orderId : String) : (s.modify orderId f h).row? orderId = (s.row? orderId).map f := by
  rw [modify, row?_map]
  cases hrow : s.row? orderId with
  | none => rfl
  | some row => simp [orderId_of_row? hrow]

theorem row?_modify_of_ne {f : Row → Row} (h : ∀ r, (f r).orderId = r.orderId) (s : Store)
    {orderId other : String} (hne : other ≠ orderId) :
    (s.modify orderId f h).row? other = s.row? other := by
  rw [modify, row?_map]
  cases hrow : s.row? other with
  | none => rfl
  | some row => simp [orderId_of_row? hrow, hne]

theorem append?_eq_none_iff {s : Store} {row : Row} :
    s.append? row = none ↔ s.row? row.orderId ≠ none := by
  unfold append?
  have hmem : row.orderId ∈ s.rows.map (fun r => r.orderId) ↔ s.row? row.orderId ≠ none := by
    rw [List.mem_map]
    constructor
    · intro h
      rcases h with ⟨old, hold, hid⟩
      rw [← hid, row?_of_mem hold]
      intro hnone
      cases hnone
    · intro h
      rcases Option.ne_none_iff_exists'.mp h with ⟨old, hold⟩
      exact ⟨old, row?_eq_some_iff.mp hold⟩
  by_cases h : row.orderId ∈ s.rows.map (fun r => r.orderId)
  · rw [dif_pos h]
    simp only [true_iff]
    exact hmem.mp h
  · rw [dif_neg h]
    simp only [reduceCtorEq, false_iff, ne_eq, Decidable.not_not]
    exact Decidable.not_not.mp (fun hne => h (hmem.mpr hne))

theorem row?_of_append? {s next : Store} {row : Row} (h : s.append? row = some next)
    (orderId : String) :
    next.row? orderId = if orderId = row.orderId then some row else s.row? orderId := by
  unfold append? at h
  by_cases hmem : row.orderId ∈ s.rows.map (fun r => r.orderId)
  · rw [dif_pos hmem] at h
    cases h
  · rw [dif_neg hmem] at h
    cases h
    by_cases hid : orderId = row.orderId
    · subst hid
      rw [if_pos rfl]
      exact row?_of_mem (List.mem_append_right _ (List.mem_singleton_self row))
    · rw [if_neg hid]
      have hrow : (row.orderId == orderId) = false := by
        simpa using fun h => hid h.symm
      simp [row?, List.find?_append, hrow]

/-!
# Reading
-/

theorem get_eq_ok_iff {s : Store} {orderId : String} {r : Record} :
    s.get orderId = .ok r ↔ ∃ row, s.row? orderId = some row ∧ row.record = .ok r := by
  unfold get read
  cases hrow : s.row? orderId with
  | none => simp
  | some row =>
      cases hrecord : row.record with
      | error why => simp [hrecord]
      | ok old => simp [hrecord]

theorem get_eq_notFound_iff {s : Store} {orderId : String} :
    s.get orderId = .error (.notFound orderId) ↔ s.row? orderId = none := by
  unfold get read
  cases hrow : s.row? orderId with
  | none => simp
  | some row => cases hrecord : row.record <;> simp [hrecord]

theorem get_of_row? {s : Store} {orderId : String} {row : Row} {r : Record}
    (hrow : s.row? orderId = some row) (hr : row.record = .ok r) : s.get orderId = .ok r :=
  get_eq_ok_iff.mpr ⟨row, hrow, hr⟩

theorem exists_get_of_status {s : Store} {orderId : String} {status : Status}
    (h : (s.get orderId).map Record.status = .ok status) :
    ∃ r, s.get orderId = .ok r ∧ r.status = status := by
  cases hget : s.get orderId with
  | error e =>
      rw [hget] at h
      cases h
  | ok r =>
      rw [hget] at h
      exact ⟨r, rfl, Except.ok.inj h⟩

end Store
end Record
end FleetBridge
