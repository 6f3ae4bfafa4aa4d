import FleetBridge.Proofs.Bridge.Custody
import FleetBridge.Proofs.Record.Update

/-!
# Sweeps

A sweep gives up pending commands: all of them, those of a robot, or those that took too
long.  It takes out the commands that it selects, fails their records unless these are over,
and touches nothing else.  Whatever comes after it, a send that was under way included,
leaves the failed records as they are.
-/

namespace FleetBridge

open Record

namespace Record.Store

section

variable {now : Time.Instant} {orderId : String} {s : Store} {r : Record}

theorem get_settle_of_isFinal (hget : s.get orderId = .ok r) (hfinal : r.status.isFinal = true)
    (status : Status) (message : Option String) :
    (s.settle now orderId status message).2.get orderId = .ok r := by
  rcases get_eq_ok_iff.mp hget with ⟨row, hrow, hr⟩
  rw [settle_of_refused hrow hr (Status.not_admits_of_isFinal hfinal), get_land]
  exact hget

end

end Record.Store

namespace Record

theorem Status.ne_created_of_isFinal {s : Status} (h : s.isFinal = true) : s ≠ .created := by
  intro hcreated
  rw [hcreated] at h
  cases h

theorem moved_failed {reason : String} (hreason : Text.isAllBlank reason = false)
    (now : Time.Instant) (r : Record) :
    r.moved now .failed (some reason) =
      { r with status := .failed, errorMessage := some reason, completedAt := some now.cut } := by
  rw [moved, messageFor_of_given (fun _ => hreason)]
  rfl

end Record

namespace Bridge

open Message

/-!
# What is over stays over
-/

section

variable {now : Time.Moment} {b b' : Bridge} {orderId : String} {r : Record}

theorem Settles.get_of_isFinal (hnow : now.IsDatable) {lost : Bool}
    (h : Settles now b b' orderId lost) (hget : b.store.get orderId = .ok r)
    (hfinal : r.status.isFinal = true) : b'.store.get orderId = .ok r := by
  rcases Store.get_eq_ok_iff.mp hget with ⟨row, hrow, hr⟩
  have hsound : row.Sound :=
    ⟨r, hr, fun hcreated => absurd hcreated (Status.ne_created_of_isFinal hfinal)⟩
  rcases h.row hrow hsound with ⟨row', hrow', hchange, _⟩
  rcases hchange.record (Time.Moment.isDatable_instant hnow) hr with
    hsame | ⟨status, _, ha, _⟩
  · exact Store.get_of_row? hrow' hsame
  · rw [Status.not_admits_of_isFinal hfinal] at ha
    cases ha

theorem get_recordOutcome_of_isFinal {s : Store} (hget : s.get orderId = .ok r)
    (hfinal : r.status.isFinal = true) (sent : Except Transport.Failure Unit) :
    (recordOutcome now orderId sent s).2.get orderId = .ok r := by
  cases sent with
  | ok _ =>
      rw [store_recordOutcome_ok]
      exact Store.get_settle_of_isFinal hget hfinal _ _
  | error failure =>
      by_cases hfailure : failure = .cancelled
      · subst hfailure
        exact Store.get_discard_of_ne_created hget (Status.ne_created_of_isFinal hfinal) orderId
      · have hsettle := @Store.get_settle_of_isFinal now.instant _ _ _ hget hfinal .failed
          (some failure.message)
        simp only [recordOutcome_of_failure hfailure, Store.commitFailed]
        split
        all_goals
          rename_i hresult
          rw [hresult] at hsettle
          exact hsettle

/-- The answer of the transport comes too late for a record that is over. -/
theorem get_finish_of_isFinal (hget : b.store.get orderId = .ok r)
    (hfinal : r.status.isFinal = true) (t : Ticket) (sent : Except Transport.Failure Unit) :
    (b.finish now t sent).2.store.get orderId = .ok r := by
  by_cases hid : orderId = t.orderId
  · subst hid
    have houtcome := @get_recordOutcome_of_isFinal now _ _ _ hget hfinal sent
    unfold finish
    split
    all_goals
      rename_i hresult
      rw [hresult] at houtcome
      exact houtcome
  · rw [Store.get, row?_finish_of_ne hid]
    exact hget

theorem get_start_of_ok (hget : b.store.get orderId = .ok r) (now : Time.Moment)
    (device : String) (via : Option Transport.Kind) (command : Command) :
    (b.start now device via command).2.store.get orderId = .ok r := by
  rcases Store.get_eq_ok_iff.mp hget with ⟨row, hrow, hr⟩
  have hstarts := starts_start now device via command b
  generalize b.start now device via command = result at hstarts
  have hbegun : ∀ {d : Draft} {s : Store}, b.store.begin now.instant d = .ok s →
      s.get orderId = .ok r := by
    intro d s hbegin
    apply Store.get_of_row? _ hr
    rw [Store.row?_of_begin hbegin, if_neg]
    · exact hrow
    · intro hid
      rw [hid, Store.row?_eq_none_of_begin hbegin] at hrow
      cases hrow
  cases hstarts with
  | refused hstore _ => exact hstore ▸ hget
  | ordered _ _ hbegin _ => exact hbegun hbegin
  | commanded _ _ hbegin _ _ _ => exact hbegun hbegin

end

namespace World

variable {w : World} {orderId : String} {r : Record}

theorem get_step_of_isFinal {now : Time.Moment} (hnow : now.IsDatable)
    (hget : w.bridge.store.get orderId = .ok r) (hfinal : r.status.isFinal = true)
    (deed : Deed) : (w.step now deed).bridge.store.get orderId = .ok r := by
  have hsettled : ∀ {b' : Bridge} {lost : Bool}, Settles now w.bridge b' orderId lost →
      b'.store.get orderId = .ok r :=
    fun hsettles => hsettles.get_of_isFinal hnow hget hfinal
  cases deed with
  | start device via command =>
      rw [bridge_step_start]
      exact get_start_of_ok hget now device via command
  | finish other sent =>
      cases hflight : w.flight? other with
      | none =>
          simp only [step, hflight]
          exact hget
      | some f =>
          rcases flight?_eq_some hflight with ⟨_, rfl⟩
          rcases exists_step_finish now hflight sent with ⟨returned, hstep⟩
          rw [hstep]
          exact get_finish_of_isFinal hget hfinal f.ticket sent
  | abandon other =>
      cases hflight : w.flight? other with
      | none =>
          simp only [step, hflight]
          exact hget
      | some f =>
          simp only [step, hflight]
          exact Store.get_discard_of_ne_created hget (Status.ne_created_of_isFinal hfinal) _
  | state s => exact hsettled (settles_handleState hnow s w.bridge orderId)
  | connection c => exact hsettled (settles_handleConnection hnow c w.bridge orderId)
  | factsheet f => exact hget
  | expire ttl => exact hsettled (settles_failCommands hnow _ _ w.bridge orderId)
  | failAll reason => exact hsettled (settles_failCommands hnow _ reason w.bridge orderId)
  | failDevice device reason =>
      exact hsettled (settles_failDevice hnow device reason w.bridge orderId)
  | update other status message =>
      exact hsettled (settles_updateOrder now other status message w.bridge orderId)
  | cancel other => exact hsettled (settles_cancelOrder hnow other w.bridge orderId)
  | recover =>
      simp only [step]
      cases hrecover : w.bridge.store.recover now.instant with
      | error e => exact hget
      | ok recovered => exact hsettled (settles_recover hrecover orderId)
  | elsewhere f => exact hget

theorem get_run_of_isFinal {deeds : List Entry} (hdeeds : Time.AllDatable deeds)
    (hget : w.bridge.store.get orderId = .ok r) (hfinal : r.status.isFinal = true) :
    (w.run deeds).bridge.store.get orderId = .ok r := by
  induction deeds generalizing w with
  | nil => exact hget
  | cons e deeds ih =>
      rcases hdeeds.cons with ⟨he, hrest⟩
      exact ih hrest (get_step_of_isFinal he hget hfinal e.2)

end World

/-!
# Giving up what is selected
-/

/-- A call that gives up pending commands, for a reason that is worth telling. -/
inductive Sweep where
  | all (reason : String) (hreason : Text.isAllBlank reason = false)
  | device (device reason : String) (hreason : Text.isAllBlank reason = false)
  | expired (ttl : Nat)

namespace Sweep

def selects (now : Time.Moment) : Sweep → Pending.Command → Bool
  | all _ _ => fun _ => true
  | device d _ _ => fun c => c.device == d
  | expired ttl => fun c => ttl < c.age now

def reason : Sweep → String
  | all reason _ => reason
  | device _ reason _ => reason
  | expired ttl => expiryReason ttl

def run (now : Time.Moment) (b : Bridge) : Sweep → List CommandResult × Bridge
  | all reason _ => b.failAll now reason
  | device d reason _ => b.failDevice now d reason
  | expired ttl => b.expire now ttl

def deed : Sweep → World.Deed
  | all reason _ => .failAll reason
  | device d reason _ => .failDevice d reason
  | expired ttl => .expire ttl

theorem run_eq (now : Time.Moment) (s : Sweep) (b : Bridge) :
    s.run now b =
      failCommands now s.reason (b.pending.takeWhere (s.selects now)).1
        { b with pending := (b.pending.takeWhere (s.selects now)).2 } := by
  cases s <;> rfl

theorem isAllBlank_reason (s : Sweep) : Text.isAllBlank s.reason = false := by
  cases s with
  | all reason hreason => exact hreason
  | device d reason hreason => exact hreason
  | expired ttl =>
      unfold reason expiryReason
      repeat apply Text.isAllBlank_append_of_left
      decide

end Sweep

structure Sweeps (now : Time.Moment) (s : Sweep) (b b' : Bridge)
    (results : List CommandResult) : Prop where
  remaining : b'.pending.commands = b.pending.commands.filter (fun c => !s.selects now c)
  told : ∃ swept : List Pending.Command,
    swept.Perm (b.pending.commands.filter (s.selects now)) ∧
      swept.Pairwise (fun c d => c.registered ≤ d.registered) ∧
      results = swept.map (fun c => c.result now .failure (some s.reason))
  failed : ∀ {c r}, c ∈ b.pending.commands → s.selects now c = true →
    b.store.get c.key = .ok r →
    r.status = .created ∨ r.status = .sent ∨ r.status = .started →
    b'.store.get c.key =
      .ok
        { r with
          status := .failed
          errorMessage := some s.reason
          completedAt := some now.instant.cut }
  ended : ∀ {c r}, c ∈ b.pending.commands → s.selects now c = true →
    b.store.get c.key = .ok r →
    r.status = .completed ∨ r.status = .failed ∨ r.status = .cancelled →
    b'.store.row? c.key = b.store.row? c.key
  missing : ∀ {orderId}, (∀ r, b.store.get orderId ≠ .ok r) →
    b'.store.row? orderId = b.store.row? orderId
  others : ∀ {orderId},
    (∀ c ∈ b.pending.commands, s.selects now c = true → orderId ≠ c.key) →
    b'.store.row? orderId = b.store.row? orderId
  again : ∀ {moment : Time.Moment},
    (∀ c ∈ b.pending.commands, s.selects moment c = true → s.selects now c = true) →
    s.run moment b' = ([], b')

section

variable {now : Time.Moment} {s : Sweep} {b : Bridge}

theorem pending_sweep :
    (s.run now b).2.pending = (b.pending.takeWhere (s.selects now)).2 := by
  rw [s.run_eq]
  exact (concludes_conclude now .failed .failure (some s.reason)).pending_forEach _ _

theorem told_sweep :
    ∃ swept : List Pending.Command,
      swept.Perm (b.pending.commands.filter (s.selects now)) ∧
        swept.Pairwise (fun c d => c.registered ≤ d.registered) ∧
        (s.run now b).1 = swept.map (fun c => c.result now .failure (some s.reason)) := by
  refine ⟨(b.pending.takeWhere (s.selects now)).1, List.mergeSort_perm _ _,
    Pending.pairwise_oldestFirst _, ?_⟩
  rw [s.run_eq]
  exact (announces_conclude now .failed .failure (some s.reason)).forEach_fst _ _

theorem row?_sweep_of_mem (hnow : now.IsDatable) {c : Pending.Command}
    (hc : c ∈ b.pending.commands) (hselected : s.selects now c = true) {row : Row} {r : Record}
    (hrow : b.store.row? c.key = some row) (hr : row.record = .ok r) :
    (s.run now b).2.store.row? c.key =
      some (finalized now.instant .failed (some s.reason) r row) := by
  rw [s.run_eq]
  exact @Concludes.row?_forEach_of_mem _ _ now _ _ _ _
    (concludes_conclude now .failed .failure (some s.reason)) hnow _
    (b.pending.nodup_takeWhere _) c (Pending.mem_takeWhere_iff.mpr ⟨hc, hselected⟩) _ row r
    hrow hr

theorem get_sweep_of_open (hnow : now.IsDatable) {c : Pending.Command}
    (hc : c ∈ b.pending.commands) (hselected : s.selects now c = true) {r : Record}
    (hget : b.store.get c.key = .ok r) (hopen : r.status.isFinal = false) :
    (s.run now b).2.store.get c.key =
      .ok
        { r with
          status := .failed
          errorMessage := some s.reason
          completedAt := some now.instant.cut } := by
  rcases Store.get_eq_ok_iff.mp hget with ⟨row, hrow, hr⟩
  have hafter := row?_sweep_of_mem hnow hc hselected hrow hr
  rw [finalized, if_pos (Status.admits_failed hopen)] at hafter
  rw [Store.get_of_row? hafter (Row.record_moved (Time.Moment.isDatable_instant hnow) hr _ _),
    moved_failed s.isAllBlank_reason]

theorem row?_sweep_of_isFinal (hnow : now.IsDatable) {c : Pending.Command}
    (hc : c ∈ b.pending.commands) (hselected : s.selects now c = true) {r : Record}
    (hget : b.store.get c.key = .ok r) (hfinal : r.status.isFinal = true) :
    (s.run now b).2.store.row? c.key = b.store.row? c.key := by
  rcases Store.get_eq_ok_iff.mp hget with ⟨row, hrow, hr⟩
  rw [row?_sweep_of_mem hnow hc hselected hrow hr, finalized,
    Status.not_admits_of_isFinal hfinal, hrow]
  rfl

theorem row?_sweep_of_ne {orderId : String}
    (h : ∀ c ∈ b.pending.commands, s.selects now c = true → orderId ≠ c.key) :
    (s.run now b).2.store.row? orderId = b.store.row? orderId := by
  rw [s.run_eq]
  apply (concludes_conclude now .failed .failure (some s.reason)).row?_forEach_of_ne
  intro c hc
  rcases Pending.mem_takeWhere_iff.mp hc with ⟨hmem, hselected⟩
  exact h c hmem hselected

theorem run_of_not_selects (h : ∀ c ∈ b.pending.commands, s.selects now c = false) :
    s.run now b = ([], b) := by
  rw [s.run_eq, Pending.takeWhere_of_forall_not h]
  rfl

theorem sweep_again {moment : Time.Moment}
    (h : ∀ c ∈ b.pending.commands, s.selects moment c = true → s.selects now c = true) :
    s.run moment (s.run now b).2 = ([], (s.run now b).2) := by
  apply run_of_not_selects
  intro c hc
  rw [pending_sweep] at hc
  rcases List.mem_filter.mp hc with ⟨hmem, hspared⟩
  cases hselected : s.selects moment c with
  | false => rfl
  | true =>
      rw [h c hmem hselected] at hspared
      cases hspared

theorem sweeps (hnow : now.IsDatable) (s : Sweep) (b : Bridge) :
    Sweeps now s b (s.run now b).2 (s.run now b).1 where
  remaining := by
    rw [pending_sweep]
    rfl
  told := told_sweep
  failed {c r} hc hselected hget hstatus := by
    apply get_sweep_of_open hnow hc hselected hget
    rcases hstatus with h | h | h <;> rw [h] <;> rfl
  ended hc hselected hget hover :=
    row?_sweep_of_isFinal hnow hc hselected hget (Status.isFinal_iff.mpr hover)
  missing hget := by
    rw [s.run_eq]
    exact (concludes_conclude now .failed .failure (some s.reason)).row?_forEach_of_unread _ hget
  others := row?_sweep_of_ne
  again := sweep_again

end

end Bridge
end FleetBridge
