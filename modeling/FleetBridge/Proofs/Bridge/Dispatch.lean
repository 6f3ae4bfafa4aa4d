import FleetBridge.Bridge.Dispatch
import FleetBridge.Proofs.Pending
import FleetBridge.Proofs.Record.Change

/-!
# The two steps of a dispatch

What the first step does to records and pending commands, and what the second step
leaves behind for its order, whatever happened to the record in between.
-/

namespace FleetBridge
namespace Bridge

open Record

/-!
# The first step
-/

/-- Whether a command goes to a robot as it is, and is pending from then on. -/
def Command.isDirect : Command → Bool
  | .order _ _ => false
  | _ => true

inductive Starts (now : Time.Moment) (b : Bridge) (direct : Bool) :
    Except Error Ticket × Bridge → Prop where
  | refused {e : Error} {b' : Bridge} (hstore : b'.store = b.store)
      (hpending : b'.pending = b.pending) : Starts now b direct (.error e, b')
  | ordered {t : Ticket} {b' : Bridge} {d : Draft} (hdirect : direct = false)
      (hid : d.orderId = t.orderId) (hbegin : b.store.begin now.instant d = .ok b'.store)
      (hpending : b'.pending = b.pending) : Starts now b direct (.ok t, b')
  | commanded {t : Ticket} {b' : Bridge} {d : Draft} {c : Pending.Command}
      (hdirect : direct = true) (hid : d.orderId = t.orderId)
      (hbegin : b.store.begin now.instant d = .ok b'.store) (hkey : c.key = t.orderId)
      (hdevice : c.device = t.device) (hpending : b'.pending = b.pending.insert c) :
      Starts now b direct (.ok t, b')

theorem starts_issue (now : Time.Moment) (draft : Draft) (envelope : Message.Envelope)
    (transport : Transport.Kind) (text : Option String) (b : Bridge) :
    Starts now b text.isSome (b.issue now draft envelope transport text) := by
  unfold issue
  cases hbegin : b.store.begin now.instant draft with
  | error e => exact Starts.refused rfl rfl
  | ok store =>
      cases text with
      | none => exact @Starts.ordered now b _ _ _ draft rfl rfl hbegin rfl
      | some text => exact @Starts.commanded now b _ _ _ draft _ rfl rfl hbegin rfl rfl rfl

theorem Starts.congr {now : Time.Moment} {b start : Bridge} {direct : Bool}
    {result : Except Error Ticket × Bridge} (hstore : start.store = b.store)
    (hpending : start.pending = b.pending) (h : Starts now start direct result) :
    Starts now b direct result := by
  cases h with
  | refused hs hp => exact Starts.refused (hs.trans hstore) (hp.trans hpending)
  | ordered hdirect hid hbegin hp =>
      rw [hstore] at hbegin
      exact Starts.ordered hdirect hid hbegin (hp.trans hpending)
  | commanded hdirect hid hbegin hkey hdevice hp =>
      rw [hstore] at hbegin
      rw [hpending] at hp
      exact Starts.commanded hdirect hid hbegin hkey hdevice hp

theorem starts_issueCommand (now : Time.Moment) (device : String)
    (envelope : Message.Envelope) (transport : Transport.Kind) (text : String) (b : Bridge) :
    Starts now b true (b.issueCommand now device envelope transport text) := by
  unfold issueCommand
  refine Starts.congr ?_ ?_ (starts_issue now _ envelope transport (some text) b.draw.2)
  · rfl
  · rfl

theorem starts_issueOrder (now : Time.Moment) (device templateId : String)
    (graph : Message.Graph) (transport : Transport.Kind) (b : Bridge) :
    Starts now b false (b.issueOrder now device templateId graph transport) := by
  unfold issueOrder
  refine Starts.congr ?_ ?_ (starts_issue now _ _ transport none _)
  · rfl
  · rfl

theorem starts_start (now : Time.Moment) (device : String) (via : Option Transport.Kind)
    (command : Command) (b : Bridge) :
    Starts now b command.isDirect (b.start now device via command) := by
  cases honline : b.presence.isOnline device with
  | false =>
      cases command with
      | order templateId overrides =>
          simp only [start, honline]
          cases b.library.expand templateId b.uuids with
          | error what => exact Starts.refused rfl rfl
          | ok expanded => exact Starts.refused rfl rfl
      | _ =>
          simp only [start, honline]
          exact Starts.refused rfl rfl
  | true =>
      cases command with
      | order templateId overrides =>
          simp only [start, honline]
          cases b.library.expand templateId b.uuids with
          | error what => exact Starts.refused rfl rfl
          | ok expanded =>
              refine Starts.congr ?_ ?_ (starts_issueOrder now device templateId _ _ _)
              · rfl
              · rfl
      | rawOrder orderId orderUpdateId graph text =>
          simp only [start, honline, if_true]
          refine Starts.congr ?_ ?_ (starts_issue now _ _ _ (some text) _)
          · rfl
          · rfl
      | instantActions actions text =>
          simp only [start, honline, if_true]
          refine Starts.congr ?_ ?_ (starts_issueCommand now device _ _ text _)
          · rfl
          · rfl
      | factsheet =>
          simp only [start, honline, if_true]
          refine Starts.congr ?_ ?_ (starts_issueCommand now device _ _ _ _)
          · rfl
          · rfl
      | initPosition pose =>
          simp only [start, honline, if_true]
          refine Starts.congr ?_ ?_ (starts_issueCommand now device _ _ _ _)
          · rfl
          · rfl

/-!
# The second step
-/

/-- What a dispatch leaves behind for its order, whose record was `r` when the transport
answered. -/
inductive Ends (b : Bridge) (orderId : String) (r : Record) :
    Except Error Dispatched → Bridge → Prop where
  | sent {d : Dispatched} {b' : Bridge} {row : Row} {r' : Record}
      (hrow : b'.store.row? orderId = some row) (hlanded : row.inFlight = false)
      (hr : row.record = .ok r') (hcreated : r'.status ≠ .created)
      (hstatus : d.status = r'.status) (hkept : r.status ≠ .created → r' = r)
      (hpending : b'.pending = b.pending) : Ends b orderId r (.ok d) b'
  | withdrawn {b' : Bridge} (hrow : b'.store.row? orderId = none)
      (hpending : b'.pending.find? orderId = none) :
      Ends b orderId r (.error (.transport .cancelled)) b'
  | overruled {b' : Bridge} {row : Row} (hrow : b'.store.row? orderId = some row)
      (hlanded : row.inFlight = false) (hr : row.record = .ok r)
      (hcreated : r.status ≠ .created) (hpending : b'.pending.find? orderId = none) :
      Ends b orderId r (.error (.transport .cancelled)) b'
  | failed {failure : Transport.Failure} {b' : Bridge} {row : Row} {r' : Record}
      (hfailure : failure ≠ .cancelled) (hrow : b'.store.row? orderId = some row)
      (hlanded : row.inFlight = false) (hr : row.record = .ok r')
      (hfinal : r'.status.isFinal = true) (hpending : b'.pending.find? orderId = none) :
      Ends b orderId r (.error (.transport failure)) b'

theorem recordOutcome_of_failure {failure : Transport.Failure} (h : failure ≠ .cancelled)
    (now : Time.Moment) (orderId : String) (store : Store) :
    recordOutcome now orderId (.error failure) store =
      match store.commitFailed now.instant orderId failure.message with
      | (.ok _, store) => (.error (.transport failure), store)
      | (.error (.invalidTransition _ _ _), store) => (.error (.transport failure), store)
      | (.error e, store) => (.error (.ofStore e), store) := by
  cases failure with
  | cancelled => exact absurd rfl h
  | _ => rfl

theorem row?_settled {now : Time.Instant} {orderId : String} {status : Status}
    {message : Option String} {s : Store} {row : Row}
    (hrow : s.row? orderId = some row) :
    ((s.land orderId).modify orderId (Row.moved now status message)
      (Row.orderId_moved now status message)).row? orderId =
        some (row.land.moved now status message) := by
  rw [Store.row?_modify_self, Store.row?_land_self, hrow]
  rfl

section

variable {now : Time.Moment} {t : Ticket} {b : Bridge} {row : Row} {r : Record}

theorem ends_finish_ok (hnow : now.IsDatable) (hrow : b.store.row? t.orderId = some row)
    (hr : row.record = .ok r) :
    Ends b t.orderId r (b.finish now t (.ok ())).1 (b.finish now t (.ok ())).2 := by
  have hinstant := Time.Moment.isDatable_instant hnow
  have hland : row.land.record = .ok r := hr
  cases ha : r.status.admits .sent with
  | true =>
      simp only [finish, recordOutcome, Store.commitSent,
        Store.settle_of_admits hinstant hrow hr ha none]
      refine Ends.sent (row?_settled hrow) rfl (Row.record_moved hinstant hland .sent none)
        (Status.ne_created_of_admits ha) rfl ?_ rfl
      intro hcreated
      exact absurd (Status.eq_created_of_admits_sent ha) hcreated
  | false =>
      simp only [finish, recordOutcome, Store.commitSent, Store.settle_of_refused hrow hr ha]
      refine Ends.sent ?_ ?_ hland ?_ rfl (fun _ => rfl) rfl
      · rw [Store.row?_land_self, hrow]
        rfl
      · rfl
      · intro hcreated
        rw [hcreated] at ha
        cases ha

theorem ends_finish_cancelled (hrow : b.store.row? t.orderId = some row)
    (hr : row.record = .ok r) (hflag : r.status = .created → row.inFlight = true) :
    Ends b t.orderId r (b.finish now t (.error .cancelled)).1
      (b.finish now t (.error .cancelled)).2 := by
  simp only [finish, recordOutcome]
  have hdiscard := Store.row?_discard_self b.store t.orderId
  rw [hrow] at hdiscard
  cases hstranded : row.isStranded with
  | true =>
      simp only [Option.bind_some, hstranded, if_true] at hdiscard
      exact Ends.withdrawn hdiscard (Pending.find?_erase_self _ _)
  | false =>
      simp only [Option.bind_some, hstranded] at hdiscard
      refine Ends.overruled hdiscard rfl hr ?_ (Pending.find?_erase_self _ _)
      intro hcreated
      rw [(Row.isStranded_iff hr).mpr ⟨hflag hcreated, hcreated⟩] at hstranded
      cases hstranded

theorem ends_finish_failed (hnow : now.IsDatable) {failure : Transport.Failure}
    (hfailure : failure ≠ .cancelled) (hrow : b.store.row? t.orderId = some row)
    (hr : row.record = .ok r) :
    Ends b t.orderId r (b.finish now t (.error failure)).1
      (b.finish now t (.error failure)).2 := by
  have hinstant := Time.Moment.isDatable_instant hnow
  have hland : row.land.record = .ok r := hr
  simp only [finish, recordOutcome_of_failure hfailure, Store.commitFailed]
  cases hfinal : r.status.isFinal with
  | false =>
      rw [Store.settle_of_admits hinstant hrow hr (Status.admits_failed hfinal)
        (some failure.message)]
      exact Ends.failed hfailure (row?_settled hrow) rfl
        (Row.record_moved hinstant hland .failed (some failure.message)) rfl
        (Pending.find?_erase_self _ _)
  | true =>
      rw [Store.settle_of_refused hrow hr (Status.not_admits_of_isFinal hfinal)]
      refine Ends.failed hfailure ?_ ?_ hland hfinal (Pending.find?_erase_self _ _)
      · rw [Store.row?_land_self, hrow]
        rfl
      · rfl

theorem ends_finish (hnow : now.IsDatable) (hrow : b.store.row? t.orderId = some row)
    (hr : row.record = .ok r) (hflag : r.status = .created → row.inFlight = true)
    (sent : Except Transport.Failure Unit) :
    Ends b t.orderId r (b.finish now t sent).1 (b.finish now t sent).2 := by
  cases sent with
  | ok _ => exact ends_finish_ok hnow hrow hr
  | error failure =>
      by_cases hfailure : failure = .cancelled
      · subst hfailure
        exact ends_finish_cancelled hrow hr hflag
      · exact ends_finish_failed hnow hfailure hrow hr

end

theorem Ends.of_row? {b b' : Bridge} {orderId : String} {r : Record}
    {answer : Except Error Dispatched} (h : Ends b orderId r answer b') {row : Row}
    (hrow : b'.store.row? orderId = some row) :
    ∃ r', row.record = .ok r' ∧ r'.status ≠ .created := by
  cases h with
  | sent hfound _ hr hcreated =>
      rw [hfound] at hrow
      cases hrow
      exact ⟨_, hr, hcreated⟩
  | withdrawn hfound =>
      rw [hfound] at hrow
      cases hrow
  | overruled hfound _ hr hcreated =>
      rw [hfound] at hrow
      cases hrow
      exact ⟨_, hr, hcreated⟩
  | failed _ hfound _ hr hfinal =>
      rw [hfound] at hrow
      cases hrow
      refine ⟨_, hr, ?_⟩
      intro hcreated
      rw [hcreated] at hfinal
      cases hfinal

theorem rest_finish (now : Time.Moment) (t : Ticket) (sent : Except Transport.Failure Unit)
    (b : Bridge) :
    (b.finish now t sent).2 =
      { b with
        store := (b.finish now t sent).2.store
        pending := (b.finish now t sent).2.pending } := by
  unfold finish
  split <;> rfl

theorem pending_finish_ok {now : Time.Moment} (hnow : now.IsDatable) {t : Ticket} {b : Bridge}
    {row : Row} {r : Record} (hrow : b.store.row? t.orderId = some row)
    (hr : row.record = .ok r) : (b.finish now t (.ok ())).2.pending = b.pending := by
  have hinstant := Time.Moment.isDatable_instant hnow
  cases ha : r.status.admits .sent with
  | true =>
      simp only [finish, recordOutcome, Store.commitSent,
        Store.settle_of_admits hinstant hrow hr ha none]
  | false =>
      simp only [finish, recordOutcome, Store.commitSent, Store.settle_of_refused hrow hr ha]

/-- A command whose payload was not sent is pending no more, whatever the store says. -/
theorem pending_finish_error (now : Time.Moment) (t : Ticket) (failure : Transport.Failure)
    (b : Bridge) :
    (b.finish now t (.error failure)).2.pending = b.pending.erase t.orderId := by
  by_cases hfailure : failure = .cancelled
  · subst hfailure
    rfl
  · unfold finish
    rw [recordOutcome_of_failure hfailure]
    split
    · rfl
    · rename_i hresult
      split at hresult <;> cases hresult

/-!
# Other orders
-/

section

variable {now : Time.Moment} {t : Ticket} {orderId : String}

theorem row?_recordOutcome_of_ne (h : orderId ≠ t.orderId)
    (sent : Except Transport.Failure Unit) (s : Store) :
    (recordOutcome now t.orderId sent s).2.row? orderId = s.row? orderId := by
  cases sent with
  | ok _ =>
      have hsettle := Store.row?_settle_of_ne h now.instant .sent none s
      simp only [recordOutcome, Store.commitSent]
      split
      all_goals
        rename_i hresult
        rw [hresult] at hsettle
        exact hsettle
  | error failure =>
      by_cases hfailure : failure = .cancelled
      · subst hfailure
        exact Store.row?_discard_of_ne s h
      · have hsettle := Store.row?_settle_of_ne h now.instant .failed (some failure.message) s
        simp only [recordOutcome_of_failure hfailure, Store.commitFailed]
        split
        all_goals
          rename_i hresult
          rw [hresult] at hsettle
          exact hsettle

theorem row?_finish_of_ne (h : orderId ≠ t.orderId) (sent : Except Transport.Failure Unit)
    (b : Bridge) : (b.finish now t sent).2.store.row? orderId = b.store.row? orderId := by
  have hrow := @row?_recordOutcome_of_ne now t orderId h sent b.store
  unfold finish
  split
  all_goals
    rename_i hresult
    rw [hresult] at hrow
    exact hrow

theorem find?_finish_of_ne (h : orderId ≠ t.orderId) (sent : Except Transport.Failure Unit)
    (b : Bridge) :
    (b.finish now t sent).2.pending.find? orderId = b.pending.find? orderId := by
  unfold finish
  split
  · exact Pending.find?_erase_of_ne h b.pending
  · rfl

end

end Bridge
end FleetBridge
