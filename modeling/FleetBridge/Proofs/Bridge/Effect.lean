import FleetBridge.Bridge.Ingest
import FleetBridge.Proofs.Pending
import FleetBridge.Proofs.Record.Change

/-!
# What the bridge does to one order

Everything the bridge does apart from dispatching is seen here from one order: its row
changes as the lifecycle admits, and its command goes from the pending ones only
together with its record coming to an end.  There is one exception: a state may settle
a command as done while its record is new.
-/

namespace FleetBridge
namespace Bridge

open Message Record

/-!
# What leaves records and pending commands alone
-/

theorem store_report (now : Time.Moment) (r : CommandResult) (b : Bridge) :
    (b.report now r).store = b.store := by
  unfold report
  cases b.reportsResults <;> rfl

theorem pending_report (now : Time.Moment) (r : CommandResult) (b : Bridge) :
    (b.report now r).pending = b.pending := by
  unfold report
  cases b.reportsResults <;> rfl

theorem store_observeStatus (now : Time.Moment) (device : String) (status : Summary)
    (b : Bridge) : (b.observeStatus now device status).store = b.store := by
  simp only [observeStatus]
  split <;> rfl

theorem pending_observeStatus (now : Time.Moment) (device : String) (status : Summary)
    (b : Bridge) : (b.observeStatus now device status).pending = b.pending := by
  simp only [observeStatus]
  split <;> rfl

/-!
# Moving the record of a command that is over
-/

theorem pending_finalize (now : Time.Moment) (orderId : String) (status : Status)
    (message : Option String) (b : Bridge) :
    (b.finalize now orderId status message).pending = b.pending := by
  unfold finalize
  cases b.store.update now.instant orderId status message <;> rfl

theorem row?_finalize_of_ne {now : Time.Moment} {orderId other : String} (h : other ≠ orderId)
    (status : Status) (message : Option String) (b : Bridge) :
    (b.finalize now orderId status message).store.row? other = b.store.row? other := by
  unfold finalize
  cases hupdate : b.store.update now.instant orderId status message with
  | error e => rfl
  | ok moved =>
      rcases Store.eq_modify_of_update hupdate with ⟨_, _, _, _, _, hstore⟩
      simp only [hstore]
      exact Store.row?_modify_of_ne _ b.store h

/-- The row of an order after a move that takes place if the lifecycle admits it. -/
def finalized (now : Time.Instant) (status : Status) (message : Option String)
    (r : Record) (row : Row) : Row :=
  if r.status.admits status then row.moved now status message else row

theorem row?_finalize_self {now : Time.Moment} (hnow : now.IsDatable) {orderId : String}
    {b : Bridge} {row : Row} {r : Record} (hrow : b.store.row? orderId = some row)
    (hr : row.record = .ok r) (status : Status) (message : Option String) :
    (b.finalize now orderId status message).store.row? orderId =
      some (finalized now.instant status message r row) := by
  unfold finalize finalized
  cases ha : r.status.admits status with
  | true =>
      rw [Store.update_of_admits (Time.Moment.isDatable_instant hnow) hrow hr ha message]
      simp only [if_true]
      rw [Store.row?_modify_self, hrow]
      rfl
  | false =>
      rw [Store.update_of_refused hrow hr ha]
      exact hrow

theorem change_finalized {now : Time.Instant} {row : Row} {r : Record}
    (hr : row.record = .ok r) (status : Status) (message : Option String) :
    Row.Change now row (finalized now status message r row) := by
  unfold finalized
  cases ha : r.status.admits status with
  | true => exact Row.Change.moved hr ha message
  | false => exact Row.Change.kept row

def IsOver (row : Row) : Prop :=
  ∃ r, row.record = .ok r ∧ r.status.isFinal = true

theorem isOver_finalized {now : Time.Instant} (hnow : now.IsDatable) {row : Row} {r : Record}
    (hr : row.record = .ok r) {status : Status} (hstatus : status.isFinal = true)
    (hadmits : r.status.isFinal = false → r.status.admits status = true)
    (message : Option String) : IsOver (finalized now status message r row) := by
  unfold finalized
  cases hfinal : r.status.isFinal with
  | true =>
      rw [Status.not_admits_of_isFinal hfinal]
      exact ⟨r, hr, hfinal⟩
  | false =>
      rw [hadmits hfinal]
      exact ⟨_, Row.record_moved hnow hr status message, hstatus⟩

/-!
# Ending commands one after the other
-/

/-- An operation that moves the record of a command and touches nothing else of the
records and pending commands. -/
structure Concludes (now : Time.Moment) (f : α → Bridge → β × Bridge) (key : α → String)
    (status : α → Status) (message : α → Option String) : Prop where
  store : ∀ a b, (f a b).2.store = (b.finalize now (key a) (status a) (message a)).store
  pending : ∀ a b, (f a b).2.pending = b.pending

theorem concludes_conclude (now : Time.Moment) (status : Status) (verdict : Verdict)
    (message : Option String) :
    Concludes now (conclude now status verdict message) Pending.Command.key (fun _ => status)
      (fun _ => message) where
  store c b := by
    simp only [conclude]
    rw [store_report]
  pending c b := by
    simp only [conclude]
    rw [pending_report, pending_finalize]

def statusOf (v : Verdict) : Status :=
  if v == .success then .completed else .failed

theorem concludes_settle (now : Time.Moment) :
    Concludes now (settle now) (fun d => d.command.key) (fun d => statusOf d.verdict)
      Pending.Settlement.message where
  store d b := (concludes_conclude now _ d.verdict d.message).store d.command b
  pending d b := (concludes_conclude now _ d.verdict d.message).pending d.command b

section

variable {α β : Type} {now : Time.Moment} {f : α → Bridge → β × Bridge} {key : α → String}
  {status : α → Status} {message : α → Option String}

theorem Concludes.pending_forEach (h : Concludes now f key status message) (as : List α)
    (b : Bridge) : (forEach f as b).2.pending = b.pending := by
  induction as generalizing b with
  | nil => rfl
  | cons a rest ih =>
      simp only [forEach]
      rw [ih, h.pending]

theorem Concludes.row?_forEach_of_ne (h : Concludes now f key status message) {as : List α}
    {orderId : String} (hnot : ∀ a ∈ as, orderId ≠ key a) (b : Bridge) :
    (forEach f as b).2.store.row? orderId = b.store.row? orderId := by
  induction as generalizing b with
  | nil => rfl
  | cons a rest ih =>
      rcases List.forall_mem_cons.mp hnot with ⟨ha, hrest⟩
      simp only [forEach]
      rw [ih hrest, h.store, row?_finalize_of_ne ha]

/-- Each record is moved once, by the command whose record it is. -/
theorem Concludes.row?_forEach_of_mem (h : Concludes now f key status message)
    (hnow : now.IsDatable) {as : List α} (hnodup : (as.map key).Nodup) {a : α} (ha : a ∈ as)
    {b : Bridge} {row : Row} {r : Record} (hrow : b.store.row? (key a) = some row)
    (hr : row.record = .ok r) :
    (forEach f as b).2.store.row? (key a) =
      some (finalized now.instant (status a) (message a) r row) := by
  induction as generalizing b with
  | nil => cases ha
  | cons first rest ih =>
      rw [List.map_cons, List.nodup_cons] at hnodup
      rcases hnodup with ⟨hfirst, hrest⟩
      simp only [forEach]
      rcases List.mem_cons.mp ha with rfl | hmem
      -- The keys differ, so what comes later leaves this row alone.
      · have hnot : ∀ other ∈ rest, key a ≠ key other := by
          intro other hother heq
          exact hfirst (heq ▸ List.mem_map_of_mem hother)
        rw [h.row?_forEach_of_ne hnot, h.store, row?_finalize_self hnow hrow hr]
      · have hne : key a ≠ key first := by
          intro heq
          exact hfirst (heq ▸ List.mem_map_of_mem hmem)
        apply ih hrest hmem
        rw [h.store, row?_finalize_of_ne hne, hrow]

end

/-!
# What becomes of a row and its command
-/

/-- Whether a state reports the command of an order done while its record is new. -/
def overtakes (s : State) (orderId : String) (b : Bridge) : Bool :=
  match b.pending.find? orderId, b.store.get orderId with
  | some c, .ok r => r.status == .created && (c.settle? s).any (fun d => d.verdict == .success)
  | _, _ => false

/-- What an operation that is no dispatch does to the row and to the command of an
order.  A command that is `lost` goes although its record is not over. -/
structure Settles (now : Time.Moment) (b b' : Bridge) (orderId : String) (lost : Bool) :
    Prop where
  row : ∀ {row}, b.store.row? orderId = some row → row.Sound →
    ∃ row', b'.store.row? orderId = some row' ∧ Row.Change now.instant row row' ∧
      (b'.pending.find? orderId = b.pending.find? orderId ∨ IsOver row' ∨ lost = true)
  absent : b.pending.find? orderId = none → b'.pending.find? orderId = none
  lost : lost = true → b'.pending.find? orderId = none

section

variable {now : Time.Moment} {b b' : Bridge}

theorem Settles.of_same (hstore : b'.store = b.store) (hpending : b'.pending = b.pending)
    (orderId : String) : Settles now b b' orderId false where
  row {row} hrow _ :=
    ⟨row, by rw [hstore, hrow], Row.Change.kept row, Or.inl (by rw [hpending])⟩
  absent h := by rw [hpending, h]
  lost := nofun

theorem Settles.congr {start : Bridge} (hstore : start.store = b.store)
    (hpending : start.pending = b.pending) {orderId : String} {lost : Bool}
    (h : Settles now start b' orderId lost) : Settles now b b' orderId lost where
  row hrow hsound := by
    rw [← hstore] at hrow
    rw [← hpending]
    exact h.row hrow hsound
  absent hnone := by
    rw [← hpending] at hnone
    exact h.absent hnone
  lost := h.lost

theorem Settles.of_changes {store : Store} (h : Store.Changes now.instant b.store store)
    (orderId : String) : Settles now b { b with store } orderId false where
  row hrow _ := by
    rcases h.row hrow with ⟨row', hrow', hchange⟩
    exact ⟨row', hrow', hchange, Or.inl rfl⟩
  absent hnone := hnone
  lost := nofun

theorem settles_updateOrder (now : Time.Moment) (target : String) (status : Status)
    (message : Option String) (b : Bridge) (orderId : String) :
    Settles now b (b.updateOrder now target status message).2 orderId false := by
  unfold updateOrder
  cases hupdate : b.store.update now.instant target status message with
  | error e => exact Settles.of_same rfl rfl orderId
  | ok moved => exact Settles.of_changes (Store.changes_of_update hupdate) orderId

theorem settles_recover {records : List Record} {store : Store}
    (h : b.store.recover now.instant = .ok (records, store)) (orderId : String) :
    Settles now b { b with store } orderId false :=
  Settles.of_changes (Store.changes_of_recover h) orderId

end

theorem settles_cancelOrder {now : Time.Moment} (hnow : now.IsDatable) (target : String)
    (b : Bridge) (orderId : String) :
    Settles now b (b.cancelOrder now target).2 orderId false := by
  unfold cancelOrder updateOrder
  cases hupdate : b.store.update now.instant target .cancelled (some cancelReason) with
  | error e => exact Settles.of_same rfl rfl orderId
  | ok moved =>
      rcases moved with ⟨record, store⟩
      have hchanges := Store.changes_of_update hupdate
      cases hfind : b.pending.find? target with
      | none =>
          simp only [hfind]
          exact Settles.of_changes hchanges orderId
      | some c =>
          simp only [hfind]
          constructor
          · intro row hrow hsound
            rcases hchanges.row hrow with ⟨row', hrow', hchange⟩
            rw [store_report, pending_report]
            refine ⟨row', hrow', hchange, ?_⟩
            by_cases hid : orderId = target
            · subst hid
              rcases Store.eq_modify_of_update hupdate with ⟨old, r, hold, hr, _, hmodify⟩
              rw [hmodify, Store.row?_modify_self, hold] at hrow'
              cases hrow'
              have hmoved := Row.record_moved (Time.Moment.isDatable_instant hnow) hr .cancelled
                (some cancelReason)
              exact Or.inr (Or.inl ⟨_, hmoved, rfl⟩)
            · exact Or.inl (Pending.find?_erase_of_ne hid b.pending)
          · intro hnone
            rw [pending_report]
            by_cases hid : orderId = target
            · subst hid
              exact Pending.find?_erase_self orderId b.pending
            · exact (Pending.find?_erase_of_ne hid b.pending).trans hnone
          · nofun

/-- Commands that were taken out of the pending ones and are ended one after the other.
Those that are not over then must be lost. -/
theorem Concludes.settles {α β : Type} {now : Time.Moment} {f : α → Bridge → β × Bridge}
    {key : α → String} {status : α → Status} {message : α → Option String}
    (h : Concludes now f key status message) (hnow : now.IsDatable) {as : List α}
    (hnodup : (as.map key).Nodup) {b : Bridge} {pending : Pending} {orderId : String}
    {lost : Bool}
    (hkept : (∀ a ∈ as, orderId ≠ key a) → pending.find? orderId = b.pending.find? orderId)
    (hgone : ∀ a ∈ as, orderId = key a → pending.find? orderId = none)
    (hover : ∀ a ∈ as, orderId = key a → ∀ row r, b.store.row? orderId = some row →
      row.record = .ok r →
      IsOver (finalized now.instant (status a) (message a) r row) ∨ lost = true)
    (hlost : lost = true → ∃ a ∈ as, orderId = key a) :
    Settles now b (forEach f as { b with pending }).2 orderId lost := by
  have hpending := h.pending_forEach as { b with pending }
  constructor
  · intro row hrow hsound
    rcases hsound with ⟨r, hr, _⟩
    rw [hpending]
    by_cases hmem : ∃ a ∈ as, orderId = key a
    · rcases hmem with ⟨a, ha, hid⟩
      subst hid
      have hmoved := @row?_forEach_of_mem α β now f key status message h hnow as hnodup a ha
        { b with pending } row r hrow hr
      exact ⟨_, hmoved, change_finalized hr _ _, Or.inr (hover a ha rfl row r hrow hr)⟩
    · have hnot : ∀ a ∈ as, orderId ≠ key a := by
        intro a ha hid
        exact hmem ⟨a, ha, hid⟩
      rw [h.row?_forEach_of_ne hnot]
      exact ⟨row, hrow, Row.Change.kept row, Or.inl (hkept hnot)⟩
  · intro hnone
    rw [hpending]
    by_cases hmem : ∃ a ∈ as, orderId = key a
    · rcases hmem with ⟨a, ha, hid⟩
      exact hgone a ha hid
    · rw [← hnone]
      apply hkept
      intro a ha hid
      exact hmem ⟨a, ha, hid⟩
  · intro h
    rcases hlost h with ⟨a, ha, hid⟩
    rw [hpending]
    exact hgone a ha hid

theorem settles_failCommands {now : Time.Moment} (hnow : now.IsDatable)
    (p : Pending.Command → Bool) (reason : String) (b : Bridge) (orderId : String) :
    Settles now b
      (failCommands now reason (b.pending.takeWhere p).1
        { b with pending := (b.pending.takeWhere p).2 }).2 orderId false := by
  apply (concludes_conclude now .failed .failure (some reason)).settles hnow
    (b.pending.nodup_takeWhere p)
  · exact Pending.find?_takeWhere_of_ne
  · intro c hc hid
    rw [hid]
    exact Pending.find?_takeWhere_of_mem hc
  · intro c _ _ row r _ hr
    exact Or.inl (isOver_finalized (Time.Moment.isDatable_instant hnow) hr rfl
      Status.admits_failed _)
  · nofun

theorem overtakes_eq_true_iff {s : State} {orderId : String} {b : Bridge} :
    b.overtakes s orderId = true ↔
      ∃ c r d, b.pending.find? orderId = some c ∧ b.store.get orderId = .ok r ∧
        r.status = .created ∧ c.settle? s = some d ∧ d.verdict = .success := by
  unfold overtakes
  cases b.pending.find? orderId with
  | none => simp
  | some c =>
      cases b.store.get orderId with
      | error e => simp
      | ok r => simp [Option.any_eq_true]

theorem isOver_or_overtakes {now : Time.Instant} (hnow : now.IsDatable) {s : State}
    {b : Bridge} {d : Pending.Settlement} (hd : d ∈ (b.pending.correlate s).1) {row : Row}
    {r : Record} (hrow : b.store.row? d.command.key = some row) (hr : row.record = .ok r) :
    IsOver (finalized now (statusOf d.verdict) d.message r row) ∨
      b.overtakes s d.command.key = true := by
  rcases Pending.find?_of_mem_correlate hd with ⟨hfind, hsettle⟩
  by_cases hsuccess : d.verdict = .success
  · -- The lifecycle has no way from a new record to a completed one.
    by_cases hcreated : r.status = .created
    · right
      exact overtakes_eq_true_iff.mpr
        ⟨d.command, r, d, hfind, Store.get_of_row? hrow hr, hcreated, hsettle, hsuccess⟩
    · left
      have hstatus : statusOf d.verdict = .completed := by simp [statusOf, hsuccess]
      rw [hstatus]
      apply isOver_finalized hnow hr rfl
      intro hopen
      exact Status.admits_completed hopen hcreated
  · left
    have hstatus : statusOf d.verdict = .failed := by simp [statusOf, hsuccess]
    rw [hstatus]
    exact isOver_finalized hnow hr rfl Status.admits_failed _

/-- Commands that a state decides come to their end; one that it reports done is lost if
its record is new. -/
theorem settles_correlate {now : Time.Moment} (hnow : now.IsDatable) (s : State) (b : Bridge)
    (orderId : String) :
    Settles now b
      (forEach (settle now) (b.pending.correlate s).1
        { b with pending := (b.pending.correlate s).2 }).2 orderId
      (b.overtakes s orderId) := by
  apply (concludes_settle now).settles hnow (b.pending.nodup_correlate s)
  · exact Pending.find?_correlate_of_ne
  · intro d hd hid
    rw [hid]
    exact Pending.find?_correlate_of_mem hd
  · intro d hd hid row r hrow hr
    subst hid
    exact isOver_or_overtakes (Time.Moment.isDatable_instant hnow) hd hrow hr
  · intro hlost
    rcases overtakes_eq_true_iff.mp hlost with ⟨c, r, d, hfind, _, _, hsettle, _⟩
    rcases Pending.mem_correlate_of_find? hfind hsettle with ⟨hmem, hkey⟩
    exact ⟨d, hmem, hkey⟩

theorem settles_handleState {now : Time.Moment} (hnow : now.IsDatable) (s : State) (b : Bridge)
    (orderId : String) :
    Settles now b (b.handleState now s).2 orderId (b.overtakes s orderId) := by
  let start : Bridge :=
    { b with presence := b.presence.observeState now.instant s }.observeStatus now
      s.serialNumber s.summary
  have hstore : start.store = b.store := store_observeStatus _ _ _ _
  have hpending : start.pending = b.pending := pending_observeStatus _ _ _ _
  have hsettles := settles_correlate hnow s start orderId
  have hovertakes : start.overtakes s orderId = b.overtakes s orderId := by
    unfold overtakes
    rw [hstore, hpending]
  rw [hovertakes] at hsettles
  exact Settles.congr hstore hpending hsettles

theorem settles_failDevice {now : Time.Moment} (hnow : now.IsDatable) (device reason : String)
    (b : Bridge) (orderId : String) :
    Settles now b (b.failDevice now device reason).2 orderId false :=
  settles_failCommands hnow (fun c => c.device == device) reason b orderId

theorem settles_handleConnection {now : Time.Moment} (hnow : now.IsDatable) (c : Connection)
    (b : Bridge) (orderId : String) :
    Settles now b (b.handleConnection now c).2 orderId false := by
  unfold handleConnection
  by_cases honline : c.status.isOnline = true
  · rw [if_pos honline]
    refine Settles.of_same ?_ ?_ orderId
    · rfl
    · rfl
  · rw [if_neg honline]
    refine Settles.congr ?_ ?_ (settles_failDevice hnow _ _ _ orderId)
    · rfl
    · rfl

end Bridge
end FleetBridge
