import FleetBridge.Proofs.Bridge.Backing
import FleetBridge.Proofs.Bridge.Outcome

/-!
# Telemetry finalises records

When no dispatch is under way, a state settles the commands that it decides, each of
them once: the results tell the verdicts, the commands are gone, and the records follow
unless they came to an end before.
-/

namespace FleetBridge

open Message

theorem Message.Verdict.any_of_ofStates {states : List ActionState}
    (h : Verdict.ofStates states = .failure) :
    states.any (fun a => a.status == .failed) = true := by
  unfold ofStates at h
  by_contra hnone
  rw [if_neg hnone] at h
  split at h
  · cases h
  · split at h <;> cases h

theorem Message.ActionState.isAllBlank_failureText (a : ActionState) :
    Text.isAllBlank a.failureText = false := by
  unfold failureText
  repeat apply Text.isAllBlank_append_of_left
  decide

namespace Pending.Command

def isDecidedBy (s : State) (c : Command) : Bool :=
  c.device == s.serialNumber && c.verdict s != .inProgress

/-- What there is to say about a verdict: why the command failed, if it did. -/
def reason? (s : State) (c : Command) : Option String :=
  if c.verdict s == .failure then failureReason? (c.relevant s) else none

theorem settle?_eq (s : State) (c : Command) :
    c.settle? s =
      if c.isDecidedBy s then
        some { command := c, verdict := c.verdict s, message := c.reason? s }
      else none := by
  unfold settle? isDecidedBy reason?
  cases c.device == s.serialNumber with
  | false => rfl
  | true => cases c.verdict s <;> rfl

theorem ofStates_of_verdict {s : State} {c : Command} (h : c.verdict s = .failure) :
    Verdict.ofStates (c.relevant s) = .failure := by
  simp only [verdict] at h
  cases hstates : Verdict.ofStates (c.relevant s) with
  | failure => rfl
  | inProgress =>
      rw [hstates] at h
      cases h
  | success =>
      simp only [hstates] at h
      split at h <;> cases h

theorem exists_reason {s : State} {c : Command} (h : c.verdict s = .failure) :
    ∃ reason, failureReason? (c.relevant s) = some reason ∧ c.reason? s = some reason ∧
      Text.isAllBlank reason = false := by
  rcases List.any_eq_true.mp (Verdict.any_of_ofStates (ofStates_of_verdict h)) with
    ⟨other, hmem, hfailed⟩
  have hfound : ((c.relevant s).find? (fun a => a.status == .failed)).isSome = true :=
    List.find?_isSome.mpr ⟨other, hmem, hfailed⟩
  rcases Option.isSome_iff_exists.mp hfound with ⟨a, ha⟩
  have hreason : failureReason? (c.relevant s) = some a.failureText := by
    rw [failureReason?, ha]
    rfl
  refine ⟨a.failureText, hreason, ?_, a.isAllBlank_failureText⟩
  simp only [reason?, h]
  exact hreason

end Pending.Command

namespace Pending

def decision (s : State) (c : Command) : Settlement :=
  { command := c, verdict := c.verdict s, message := c.reason? s }

theorem correlate_fst (s : State) (p : Pending) :
    (p.correlate s).1 = (p.commands.filter (Command.isDecidedBy s)).map (decision s) := by
  simp only [correlate]
  induction p.commands with
  | nil => rfl
  | cons c rest ih =>
      rw [List.filterMap_cons, List.filter_cons, ih, Command.settle?_eq]
      cases c.isDecidedBy s <;> rfl

theorem commands_correlate (s : State) (p : Pending) :
    (p.correlate s).2.commands = p.commands.filter (fun c => !c.isDecidedBy s) := by
  simp only [correlate, filter]
  congr 1
  funext c
  rw [Command.settle?_eq]
  cases c.isDecidedBy s <;> rfl

end Pending

namespace Bridge

open Record

/-- What a state does to a bridge on which no dispatch is under way. -/
structure Finalises (now : Time.Moment) (s : State) (b b' : Bridge)
    (results : List CommandResult) : Prop where
  told : results = (b.pending.commands.filter (Pending.Command.isDecidedBy s)).map
    (fun c => c.result now (c.verdict s) (c.reason? s))
  published : b'.reports = b.reports ++ results
  pending : b'.pending.commands = b.pending.commands.filter (fun c => !c.isDecidedBy s)
  sent : ∀ {c r}, c ∈ b.pending.commands → c.isDecidedBy s = true →
    b.store.get c.key = .ok r → r.status ≠ .created
  completed : ∀ {c r}, c ∈ b.pending.commands → c.isDecidedBy s = true →
    c.verdict s = .success → b.store.get c.key = .ok r →
    r.status = .sent ∨ r.status = .started →
    b'.store.get c.key =
      .ok { r with status := .completed, completedAt := some now.instant.cut }
  failed : ∀ {c r}, c ∈ b.pending.commands → c.isDecidedBy s = true →
    c.verdict s = .failure → b.store.get c.key = .ok r →
    r.status = .sent ∨ r.status = .started →
    ∃ reason, failureReason? (c.relevant s) = some reason ∧
      b'.store.get c.key =
        .ok
          { r with
            status := .failed
            errorMessage := some reason
            completedAt := some now.instant.cut }
  ended : ∀ {c r}, c ∈ b.pending.commands → c.isDecidedBy s = true →
    b.store.get c.key = .ok r →
    r.status = .completed ∨ r.status = .failed ∨ r.status = .cancelled →
    b'.store.row? c.key = b.store.row? c.key
  others : ∀ {orderId},
    (∀ c ∈ b.pending.commands, c.isDecidedBy s = true → orderId ≠ c.key) →
    b'.store.row? orderId = b.store.row? orderId
  absent : ∀ {orderId}, b.store.row? orderId = none → b'.store.row? orderId = none

section

variable {now : Time.Moment} {s : State} {b : Bridge}

theorem told_handleState :
    (b.handleState now s).1 =
      (b.pending.commands.filter (Pending.Command.isDecidedBy s)).map
        (fun c => c.result now (c.verdict s) (c.reason? s)) := by
  rw [handleState_eq, (announces_settle now).forEach_fst, Pending.correlate_fst, List.map_map]
  rfl

theorem pending_handleState :
    (b.handleState now s).2.pending.commands =
      b.pending.commands.filter (fun c => !c.isDecidedBy s) := by
  rw [handleState_eq, (concludes_settle now).pending_forEach]
  exact Pending.commands_correlate s b.pending

theorem row?_handleState_of_decided (hnow : now.IsDatable) {c : Pending.Command}
    (hc : c ∈ b.pending.commands) (hdecided : c.isDecidedBy s = true) {row : Row} {r : Record}
    (hrow : b.store.row? c.key = some row) (hr : row.record = .ok r) :
    (b.handleState now s).2.store.row? c.key =
      some (finalized now.instant (statusOf (c.verdict s)) (c.reason? s) r row) := by
  have hstore : (b.noted now s).store = b.store := store_observeStatus _ _ _ _
  have hmem : Pending.decision s c ∈ (b.pending.correlate s).1 := by
    rw [Pending.correlate_fst]
    exact List.mem_map_of_mem (List.mem_filter.mpr ⟨hc, hdecided⟩)
  rw [← hstore] at hrow
  rw [handleState_eq]
  exact @Concludes.row?_forEach_of_mem _ _ now (settle now) _ _ _ (concludes_settle now) hnow _
    (b.pending.nodup_correlate s) _ hmem _ row r hrow hr

theorem get_handleState_of_admits (hnow : now.IsDatable) {c : Pending.Command}
    (hc : c ∈ b.pending.commands) (hdecided : c.isDecidedBy s = true) {r : Record}
    (hget : b.store.get c.key = .ok r)
    (ha : r.status.admits (statusOf (c.verdict s)) = true) :
    (b.handleState now s).2.store.get c.key =
      .ok (r.moved now.instant (statusOf (c.verdict s)) (c.reason? s)) := by
  rcases Store.get_eq_ok_iff.mp hget with ⟨row, hrow, hr⟩
  have hafter := row?_handleState_of_decided hnow hc hdecided hrow hr
  rw [finalized, if_pos ha] at hafter
  exact Store.get_of_row? hafter
    (Row.record_moved (Time.Moment.isDatable_instant hnow) hr _ _)

theorem row?_handleState_of_isFinal (hnow : now.IsDatable) {c : Pending.Command}
    (hc : c ∈ b.pending.commands) (hdecided : c.isDecidedBy s = true) {r : Record}
    (hget : b.store.get c.key = .ok r) (hfinal : r.status.isFinal = true) :
    (b.handleState now s).2.store.row? c.key = b.store.row? c.key := by
  rcases Store.get_eq_ok_iff.mp hget with ⟨row, hrow, hr⟩
  have hrefused := @Status.not_admits_of_isFinal _ (statusOf (c.verdict s)) hfinal
  rw [row?_handleState_of_decided hnow hc hdecided hrow hr, finalized, hrefused, hrow]
  rfl

theorem row?_handleState_of_ne {orderId : String}
    (h : ∀ c ∈ b.pending.commands, c.isDecidedBy s = true → orderId ≠ c.key) :
    (b.handleState now s).2.store.row? orderId = b.store.row? orderId := by
  have hstore : (b.noted now s).store = b.store := store_observeStatus _ _ _ _
  have hnot : ∀ d ∈ (b.pending.correlate s).1, orderId ≠ d.command.key := by
    intro d hd
    rw [Pending.correlate_fst] at hd
    rcases List.mem_map.mp hd with ⟨c, hc, rfl⟩
    rcases List.mem_filter.mp hc with ⟨hmem, hdecided⟩
    exact h c hmem hdecided
  rw [handleState_eq, (concludes_settle now).row?_forEach_of_ne hnot]
  exact congrArg (Store.row? orderId) hstore

theorem admits_statusOf {status : Status} (h : status = .sent ∨ status = .started)
    (verdict : Verdict) : status.admits (statusOf verdict) = true := by
  rcases h with rfl | rfl <;> cases verdict <;> rfl

theorem get_handleState_of_success (hnow : now.IsDatable) {c : Pending.Command}
    (hc : c ∈ b.pending.commands) (hdecided : c.isDecidedBy s = true)
    (hverdict : c.verdict s = .success) {r : Record} (hget : b.store.get c.key = .ok r)
    (hstatus : r.status = .sent ∨ r.status = .started) :
    (b.handleState now s).2.store.get c.key =
      .ok { r with status := .completed, completedAt := some now.instant.cut } := by
  have hafter := get_handleState_of_admits hnow hc hdecided hget (admits_statusOf hstatus _)
  simp only [hverdict, Pending.Command.reason?] at hafter
  exact hafter

theorem get_handleState_of_failure (hnow : now.IsDatable) {c : Pending.Command}
    (hc : c ∈ b.pending.commands) (hdecided : c.isDecidedBy s = true)
    (hverdict : c.verdict s = .failure) {r : Record} (hget : b.store.get c.key = .ok r)
    (hstatus : r.status = .sent ∨ r.status = .started) :
    ∃ reason, failureReason? (c.relevant s) = some reason ∧
      (b.handleState now s).2.store.get c.key =
        .ok
          { r with
            status := .failed
            errorMessage := some reason
            completedAt := some now.instant.cut } := by
  rcases Pending.Command.exists_reason hverdict with ⟨reason, hreason, hsome, hblank⟩
  have hmessage : Columns.messageFor .failed (some reason) = some reason := by
    simp [Columns.messageFor, hblank]
  have hfailed : statusOf Verdict.failure = .failed := rfl
  have hafter := get_handleState_of_admits hnow hc hdecided hget (admits_statusOf hstatus _)
  rw [hverdict, hsome, hfailed, Record.moved, hmessage] at hafter
  exact ⟨reason, hreason, hafter⟩

theorem finalises_of_launched (hb : b.reportsResults = true) (hnow : now.IsDatable)
    (hlaunched : ∀ {orderId r}, b.store.get orderId = .ok r → r.status ≠ .created) :
    Finalises now s b (b.handleState now s).2 (b.handleState now s).1 where
  told := told_handleState
  published := (resolves_handleState hb now s).reports
  pending := pending_handleState
  sent _ _ hget := hlaunched hget
  completed hc hdecided hverdict hget hstatus :=
    get_handleState_of_success hnow hc hdecided hverdict hget hstatus
  failed hc hdecided hverdict hget hstatus :=
    get_handleState_of_failure hnow hc hdecided hverdict hget hstatus
  ended hc hdecided hget hover :=
    row?_handleState_of_isFinal hnow hc hdecided hget (Status.isFinal_iff.mpr hover)
  others := row?_handleState_of_ne
  absent hnone := (resolves_handleState hb now s).absent hnone

end

/-- Once the dispatches are over, telemetry tells the truth about the commands that it
decides, in their records as in their results. -/
theorem finalises_handleState {b : Bridge} (hb : b.IsFresh) {deeds : List World.Entry}
    (hdeeds : Time.AllDatable deeds) (hquiet : ∀ e ∈ deeds, e.2.IsQuiet)
    (hcalm : ((World.calm b).run deeds).flights = []) {now : Time.Moment}
    (hnow : now.IsDatable) (s : State) :
    let before := ((World.calm b).run deeds).bridge
    let after := before.handleState now s
    Finalises now s before after.2 after.1 ∧
      ((∀ e ∈ deeds, e.2.isAbandon = false) → ∀ c ∈ before.pending.commands,
        ∃ r, before.store.get c.key = .ok r) := by
  intro before after
  have hsound := World.sound_calm b
  have hgrounded := (World.grounded_calm hb).run hsound hdeeds hquiet
  constructor
  · apply finalises_of_launched hgrounded.reporting hnow
    -- A new record would be that of a dispatch under way.
    intro orderId r hget hcreated
    rcases Store.get_eq_ok_iff.mp hget with ⟨row, hrow, hr⟩
    rcases hgrounded.underway hrow hr hcreated with ⟨f, hf, _⟩
    rw [hcalm] at hf
    cases hf
  · intro hstay c hc
    have hattended := (World.attended_calm hb).run hsound (World.grounded_calm hb) hdeeds hquiet
      hstay
    rcases hattended.backed (Pending.find?_eq_some_iff.mpr ⟨hc, rfl⟩) with ⟨row, hrow⟩
    rcases hgrounded.sound hrow with ⟨r, hr, _⟩
    exact ⟨r, Store.get_of_row? hrow hr⟩

theorem finalises_handleState_picked :
    let before := ((World.calm idle).run delivered).bridge
    let after := before.handleState (second 4) picked
    after.1.map CommandResult.correlationKey = ["raw-1"] ∧
      ∃ r, before.store.get "raw-1" = .ok r ∧ r.status = .sent ∧
        after.2.store.get "raw-1" =
          .ok { r with status := .completed, completedAt := some (second 4).instant.cut } := by
  intro before after
  have hdeeds : Time.AllDatable delivered := by decide +kernel
  have hquiet : ∀ e ∈ delivered, e.2.IsQuiet := by
    intro e he
    simp only [delivered, underway, List.cons_append, List.nil_append, List.mem_cons,
      List.not_mem_nil, or_false] at he
    rcases he with rfl | rfl | rfl <;> trivial
  have hcalm : ((World.calm idle).run delivered).flights = [] := by decide +kernel
  have hnow : (second 4).IsDatable := by decide +kernel
  have hkeys : after.1.map CommandResult.correlationKey = ["raw-1"] := by decide +kernel
  have hpending : before.pending.commands ≠ [] := by decide +kernel
  have hfacts : ∀ c ∈ before.pending.commands, c.key = "raw-1" ∧
      c.isDecidedBy picked = true ∧ c.verdict picked = .success := by decide +kernel
  have hstatus : (before.store.get "raw-1").map Record.status = .ok .sent := by decide +kernel
  rcases List.exists_mem_of_ne_nil _ hpending with ⟨c, hc⟩
  rcases hfacts c hc with ⟨hkey, hdecided, hverdict⟩
  rcases Store.exists_get_of_status hstatus with ⟨r, hget, hsent⟩
  have hfinalises := (finalises_handleState ⟨rfl, rfl, rfl, rfl⟩ hdeeds hquiet hcalm hnow
    picked).1
  rw [← hkey] at hget
  have hafter := hfinalises.completed hc hdecided hverdict hget (Or.inl hsent)
  rw [hkey] at hget hafter
  exact ⟨hkeys, r, hget, hsent, hafter⟩

end Bridge
end FleetBridge
