import FleetBridge.Proofs.Record.Change
import FleetBridge.Record.File

/-!
# Stores under many hands

A ledger is a store together with the units of work that are open on it.  Whoever
holds the store may begin, end, move, recover or reopen at any time; a run is any
sequence of such operations, each at a moment of its own.

`transit` says once what an operation can do to the row of an order.  All that is
proved about runs rests on it.
-/

namespace FleetBridge
namespace Record

structure Ledger where
  store : Store
  /-- The orders whose unit of work is open. -/
  units : List String

namespace Ledger

inductive Op where
  | begin (d : Draft)
  | commitSent (orderId : String)
  | commitFailed (orderId reason : String)
  | discard (orderId : String)
  | drop (orderId : String)
  /-- The unit of work vanishes with its process and does nothing more. -/
  | lose (orderId : String)
  | update (orderId : String) (status : Status) (message : Option String)
  | recover
  /-- The file is opened again; units of work go on upon the same rows. -/
  | reopen

def empty : Ledger :=
  { store := .empty, units := [] }

def close (orderId : String) (f : Store → Store) (l : Ledger) : Ledger :=
  if orderId ∈ l.units then { store := f l.store, units := l.units.erase orderId } else l

/-- The ledger after an operation.  One that is refused leaves everything as it was. -/
def step (now : Time.Moment) (op : Op) (l : Ledger) : Ledger :=
  match op with
  | .begin d =>
      match l.store.begin now.instant d with
      | .ok store => { store, units := d.orderId :: l.units }
      | .error _ => l
  | .commitSent orderId => l.close orderId (fun s => (s.commitSent now.instant orderId).2)
  | .commitFailed orderId reason =>
      l.close orderId (fun s => (s.commitFailed now.instant orderId reason).2)
  | .discard orderId => l.close orderId (fun s => s.discard orderId)
  | .drop orderId => l.close orderId (fun s => s.discard orderId)
  | .lose orderId => l.close orderId (fun s => s)
  | .update orderId status message =>
      match l.store.update now.instant orderId status message with
      | .ok (_, store) => { l with store }
      | .error _ => l
  | .recover =>
      match l.store.recover now.instant with
      | .ok (_, store) => { l with store }
      | .error _ => l
  | .reopen => { l with store := (File.flagged l.store).opened }

abbrev Entry := Time.Moment × Op

def run (ops : List Entry) (l : Ledger) : Ledger :=
  ops.foldl (fun l e => l.step e.1 e.2) l

theorem run_append (before after : List Entry) (l : Ledger) :
    l.run (before ++ after) = (l.run before).run after :=
  List.foldl_append

/-- The units of work are of different orders, and each has a row that is still its
own. -/
structure Sound (l : Ledger) : Prop where
  nodup : l.units.Nodup
  row : ∀ {orderId}, orderId ∈ l.units →
    ∃ row, l.store.row? orderId = some row ∧ row.Sound

/-!
# One operation, one row
-/

inductive Transit (now : Time.Instant) (units : List String) (op : Op) (orderId : String) :
    Option Row → Option Row → Prop where
  | absent : Transit now units op orderId none none
  | begun {d : Draft} (hop : op = .begin d) (hid : d.orderId = orderId) :
      Transit now units op orderId none (some (Row.ofDraft now d))
  | changed {row row' : Row} (h : Row.Change now row row') :
      Transit now units op orderId (some row) (some row')
  | discarded {row : Row} (hop : op = .discard orderId ∨ op = .drop orderId)
      (hunit : orderId ∈ units) (h : row.isStranded = true) :
      Transit now units op orderId (some row) none

section

variable {now : Time.Instant} {units : List String} {op : Op}

theorem Transit.of_changes {s t : Store} (h : Store.Changes now s t) (orderId : String) :
    Transit now units op orderId (s.row? orderId) (t.row? orderId) := by
  cases hrow : s.row? orderId with
  | none =>
      rw [h.absent hrow]
      exact Transit.absent
  | some row =>
      rcases h.row hrow with ⟨row', hrow', hchange⟩
      rw [hrow']
      exact Transit.changed hchange

theorem Transit.refl (s : Store) (orderId : String) :
    Transit now units op orderId (s.row? orderId) (s.row? orderId) :=
  Transit.of_changes (Store.Changes.refl now s) orderId

theorem Transit.of_discard {unit : String} (hop : op = .discard unit ∨ op = .drop unit)
    (hunit : unit ∈ units) (s : Store) (orderId : String) :
    Transit now units op orderId (s.row? orderId) ((s.discard unit).row? orderId) := by
  by_cases hid : orderId = unit
  · subst hid
    rw [Store.row?_discard_self]
    cases hrow : s.row? orderId with
    | none => exact Transit.absent
    | some row =>
        cases hstranded : row.isStranded with
        | true =>
            simp only [Option.bind_some, hstranded, if_true]
            exact Transit.discarded hop hunit hstranded
        | false =>
            simp only [Option.bind_some, hstranded]
            exact Transit.changed (Row.Change.landed hstranded)
  · rw [Store.row?_discard_of_ne s hid]
    exact Transit.refl s orderId

theorem Transit.of_close {l : Ledger} {unit : String} {f : Store → Store} {orderId : String}
    (h : unit ∈ l.units → Transit now l.units op orderId (l.store.row? orderId)
      ((f l.store).row? orderId)) :
    Transit now l.units op orderId (l.store.row? orderId)
      ((l.close unit f).store.row? orderId) := by
  unfold close
  by_cases hunit : unit ∈ l.units
  · rw [if_pos hunit]
    exact h hunit
  · rw [if_neg hunit]
    exact Transit.refl l.store orderId

end

theorem transit {l : Ledger} (hl : l.Sound) {now : Time.Moment} (hnow : now.IsDatable)
    (op : Op) (orderId : String) :
    Transit now.instant l.units op orderId (l.store.row? orderId)
      ((l.step now op).store.row? orderId) := by
  have hinstant := Time.Moment.isDatable_instant hnow
  cases op with
  | begin d =>
      simp only [step]
      cases hbegin : l.store.begin now.instant d with
      | error e => exact Transit.refl _ _
      | ok store =>
          simp only [Store.row?_of_begin hbegin orderId]
          by_cases hid : orderId = d.orderId
          · subst hid
            rw [if_pos rfl, Store.row?_eq_none_of_begin hbegin]
            exact Transit.begun rfl rfl
          · rw [if_neg hid]
            exact Transit.refl _ _
  | commitSent unit =>
      apply Transit.of_close
      intro hunit
      rcases hl.row hunit with ⟨row, hrow, hsound⟩
      exact Transit.of_changes (Store.changes_of_settle hinstant rfl hrow hsound none) orderId
  | commitFailed unit reason =>
      apply Transit.of_close
      intro hunit
      rcases hl.row hunit with ⟨row, hrow, hsound⟩
      exact Transit.of_changes
        (Store.changes_of_settle hinstant rfl hrow hsound (some reason)) orderId
  | discard unit =>
      apply Transit.of_close
      intro hunit
      exact Transit.of_discard (Or.inl rfl) hunit l.store orderId
  | drop unit =>
      apply Transit.of_close
      intro hunit
      exact Transit.of_discard (Or.inr rfl) hunit l.store orderId
  | lose unit =>
      apply Transit.of_close
      intro _
      exact Transit.refl l.store orderId
  | update unit status message =>
      simp only [step]
      cases hupdate : l.store.update now.instant unit status message with
      | error e => exact Transit.refl _ _
      | ok moved => exact Transit.of_changes (Store.changes_of_update hupdate) orderId
  | recover =>
      simp only [step]
      cases hrecover : l.store.recover now.instant with
      | error e => exact Transit.refl _ _
      | ok recovered => exact Transit.of_changes (Store.changes_of_recover hrecover) orderId
  | reopen => exact Transit.refl _ _

/-!
# Units of work own their rows
-/

theorem units_update (l : Ledger) (now : Time.Moment) (orderId : String) (status : Status)
    (message : Option String) :
    (l.step now (.update orderId status message)).units = l.units := by
  simp only [step]
  cases l.store.update now.instant orderId status message <;> rfl

theorem units_recover (l : Ledger) (now : Time.Moment) :
    (l.step now .recover).units = l.units := by
  simp only [step]
  cases l.store.recover now.instant <;> rfl

theorem mem_units_close {l : Ledger} (hl : l.Sound) {unit orderId : String}
    {f : Store → Store} (h : orderId ∈ (l.close unit f).units) :
    orderId ∈ l.units ∧ orderId ≠ unit := by
  unfold close at h
  by_cases hunit : unit ∈ l.units
  · rw [if_pos hunit] at h
    have hmem := (List.Nodup.mem_erase_iff hl.nodup).mp h
    exact ⟨hmem.2, hmem.1⟩
  · rw [if_neg hunit] at h
    refine ⟨h, ?_⟩
    intro hid
    rw [hid] at h
    exact hunit h

/-- A unit that is open after an operation was open before, and the operation did not
end it, or it has just been opened. -/
theorem mem_units_step {l : Ledger} (hl : l.Sound) {now : Time.Moment} {op : Op}
    {orderId : String} (h : orderId ∈ (l.step now op).units) :
    (orderId ∈ l.units ∧ op ≠ .discard orderId ∧ op ≠ .drop orderId) ∨
      ∃ d, op = .begin d ∧ d.orderId = orderId ∧
        (l.step now op).store.row? orderId = some (Row.ofDraft now.instant d) := by
  cases op with
  | begin d =>
      simp only [step] at h ⊢
      cases hbegin : l.store.begin now.instant d with
      | error e =>
          rw [hbegin] at h
          exact Or.inl ⟨h, nofun, nofun⟩
      | ok store =>
          rw [hbegin] at h
          rcases List.mem_cons.mp h with hid | hmem
          · subst hid
            refine Or.inr ⟨d, rfl, rfl, ?_⟩
            simp only [Store.row?_of_begin hbegin, if_true]
          · exact Or.inl ⟨hmem, nofun, nofun⟩
  | commitSent unit => exact Or.inl ⟨(mem_units_close hl h).1, nofun, nofun⟩
  | commitFailed unit reason => exact Or.inl ⟨(mem_units_close hl h).1, nofun, nofun⟩
  | discard unit =>
      rcases mem_units_close hl h with ⟨hmem, hne⟩
      refine Or.inl ⟨hmem, ?_, nofun⟩
      intro hop
      cases hop
      exact hne rfl
  | drop unit =>
      rcases mem_units_close hl h with ⟨hmem, hne⟩
      refine Or.inl ⟨hmem, nofun, ?_⟩
      intro hop
      cases hop
      exact hne rfl
  | lose unit => exact Or.inl ⟨(mem_units_close hl h).1, nofun, nofun⟩
  | update unit status message =>
      rw [units_update] at h
      exact Or.inl ⟨h, nofun, nofun⟩
  | recover =>
      rw [units_recover] at h
      exact Or.inl ⟨h, nofun, nofun⟩
  | reopen => exact Or.inl ⟨h, nofun, nofun⟩

theorem nodup_close {l : Ledger} (h : l.units.Nodup) (unit : String) (f : Store → Store) :
    (l.close unit f).units.Nodup := by
  unfold close
  by_cases hunit : unit ∈ l.units
  · rw [if_pos hunit]
    exact h.erase unit
  · rw [if_neg hunit]
    exact h

theorem nodup_step {l : Ledger} (hl : l.Sound) (now : Time.Moment) (op : Op) :
    (l.step now op).units.Nodup := by
  cases op with
  | begin d =>
      simp only [step]
      cases hbegin : l.store.begin now.instant d with
      | error e => exact hl.nodup
      | ok store =>
          apply List.nodup_cons.mpr
          refine ⟨?_, hl.nodup⟩
          intro hmem
          rcases hl.row hmem with ⟨row, hrow, _⟩
          rw [Store.row?_eq_none_of_begin hbegin] at hrow
          cases hrow
  | commitSent unit => exact nodup_close hl.nodup unit _
  | commitFailed unit reason => exact nodup_close hl.nodup unit _
  | discard unit => exact nodup_close hl.nodup unit _
  | drop unit => exact nodup_close hl.nodup unit _
  | lose unit => exact nodup_close hl.nodup unit _
  | update unit status message =>
      rw [units_update]
      exact hl.nodup
  | recover =>
      rw [units_recover]
      exact hl.nodup
  | reopen => exact hl.nodup

theorem Sound.of_no_units (s : Store) : Sound { store := s, units := [] } where
  nodup := List.nodup_nil
  row := nofun

theorem Sound.step {l : Ledger} (hl : l.Sound) {now : Time.Moment} (hnow : now.IsDatable)
    (op : Op) : (l.step now op).Sound where
  nodup := nodup_step hl now op
  row := by
    intro orderId hmem
    -- A unit that goes on was not discarded, so its row cannot have gone.
    rcases mem_units_step hl hmem with ⟨hold, hdiscard, hdrop⟩ | ⟨d, _, _, hrow⟩
    · rcases hl.row hold with ⟨row, hrow, hsound⟩
      have htransit := transit hl hnow op orderId
      rw [hrow] at htransit
      generalize (l.step now op).store.row? orderId = after at htransit
      cases htransit with
      | changed hchange =>
          exact ⟨_, rfl, hsound.change (Time.Moment.isDatable_instant hnow) hchange⟩
      | discarded hop =>
          rcases hop with hop | hop
          · exact absurd hop hdiscard
          · exact absurd hop hdrop
    · exact ⟨_, hrow, Row.sound_ofDraft (Time.Moment.isDatable_instant hnow) d⟩

theorem Sound.run {l : Ledger} (hl : l.Sound) {ops : List Entry}
    (hops : Time.AllDatable ops) : (l.run ops).Sound := by
  induction ops generalizing l with
  | nil => exact hl
  | cons e ops ih =>
      rcases hops.cons with ⟨he, hrest⟩
      exact ih (hl.step he e.2) hrest

end Ledger
end Record
end FleetBridge
