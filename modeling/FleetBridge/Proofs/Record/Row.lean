import FleetBridge.Proofs.Time.Stamp
import FleetBridge.Record.Row

/-!
# Rows and the records they stand for

A row can be read back as long as the times in it lie in years of four digits.
Whatever the store does to such a row has a counterpart on its record: a new row
stands for a new record, a moved row for the moved record, and a row whose flag
came down for the same record.
-/

namespace FleetBridge
namespace Record

/-- A new record, whose creation is cut to microseconds. -/
def ofDraft (now : Time.Instant) (d : Draft) : Record :=
  { orderId := d.orderId
    templateId := d.templateId
    device := d.device
    revision := d.revision
    status := .created
    errorMessage := none
    createdAt := now.cut
    startedAt := none
    completedAt := none }

def moved (now : Time.Instant) (status : Status) (message : Option String) (r : Record) :
    Record :=
  { r with
    status
    errorMessage := (Columns.messageFor status message).or r.errorMessage
    startedAt := if status == .started then some now.cut else r.startedAt
    completedAt := if status.isFinal then some now.cut else r.completedAt }

/-!
# Moves along the lifecycle
-/

namespace Status

inductive Edge : Status → Status → Prop where
  | send : Edge created sent
  | start : Edge sent started
  | completeSent : Edge sent completed
  | completeStarted : Edge started completed
  | fail {s : Status} (h : s = created ∨ s = sent ∨ s = started) : Edge s failed
  | cancel {s : Status} (h : s = created ∨ s = sent ∨ s = started) : Edge s cancelled

theorem admits_iff_edge {s t : Status} : s.admits t = true ↔ Edge s t := by
  constructor
  · intro h
    cases t with
    | created => cases s <;> cases h
    | sent =>
        cases s with
        | created => exact Edge.send
        | _ => cases h
    | started =>
        cases s with
        | sent => exact Edge.start
        | _ => cases h
    | completed =>
        cases s with
        | sent => exact Edge.completeSent
        | started => exact Edge.completeStarted
        | _ => cases h
    | failed =>
        apply Edge.fail
        cases s <;> simp [admits, isFinal] at h ⊢
    | cancelled =>
        apply Edge.cancel
        cases s <;> simp [admits, isFinal] at h ⊢
  · intro h
    cases h with
    | send => rfl
    | start => rfl
    | completeSent => rfl
    | completeStarted => rfl
    | fail h => rcases h with rfl | rfl | rfl <;> rfl
    | cancel h => rcases h with rfl | rfl | rfl <;> rfl

theorem not_isFinal_of_admits {s t : Status} (h : s.admits t = true) : s.isFinal = false := by
  cases hfinal : s.isFinal with
  | false => rfl
  | true =>
      rw [not_admits_of_isFinal hfinal] at h
      cases h

theorem ne_created_of_admits {s t : Status} (h : s.admits t = true) : t ≠ created := by
  intro ht
  subst ht
  cases s <;> cases h

theorem admits_failed {s : Status} (h : s.isFinal = false) : s.admits failed = true := by
  cases s <;> simp [isFinal] at h <;> rfl

theorem isFinal_iff {s : Status} :
    s.isFinal = true ↔ s = completed ∨ s = failed ∨ s = cancelled := by
  cases s <;> simp [isFinal]

theorem eq_created_of_admits_sent {s : Status} (h : s.admits sent = true) : s = created := by
  cases s with
  | created => rfl
  | _ => cases h

theorem admits_completed {s : Status} (hopen : s.isFinal = false) (hcreated : s ≠ created) :
    s.admits completed = true := by
  cases s with
  | created => exact absurd rfl hcreated
  | sent => rfl
  | started => rfl
  | _ => cases hopen

end Status

/-!
# Reading rows
-/

theorem readStatus_name (s : Status) : readStatus s.name = .ok s := by
  simp [readStatus, Status.ofName?_name]

theorem readStamp_stamp (column : Nat) {i : Time.Instant} (h : i.IsDatable) :
    readStamp column (stamp i) = .ok i.cut := by
  simp [readStamp, stamp, Time.Instant.ofStamp?_stamp h]

theorem readOptionalStamp_stamp (column : Nat) {i : Time.Instant} (h : i.IsDatable) :
    readOptionalStamp column (some (stamp i)) = .ok (some i.cut) := by
  simp [readOptionalStamp, readStamp_stamp column h, Except.map]

namespace Columns

theorem record_eq_ok_iff {c : Columns} {r : Record} :
    c.record = .ok r ↔
      ∃ status createdAt startedAt completedAt,
        readStatus c.status = .ok status ∧ readStamp 6 c.createdAt = .ok createdAt ∧
        readOptionalStamp 7 c.startedAt = .ok startedAt ∧
        readOptionalStamp 8 c.completedAt = .ok completedAt ∧
        r = { orderId := c.orderId, templateId := c.templateId, device := c.device,
              revision := c.revision.toUInt64, status, errorMessage := c.errorMessage,
              createdAt, startedAt, completedAt } := by
  unfold record
  cases hstatus : readStatus c.status with
  | error e => simp [bind, Except.bind]
  | ok status =>
      cases hcreated : readStamp 6 c.createdAt with
      | error e => simp [bind, Except.bind]
      | ok createdAt =>
          cases hstarted : readOptionalStamp 7 c.startedAt with
          | error e => simp [bind, Except.bind]
          | ok startedAt =>
              cases hcompleted : readOptionalStamp 8 c.completedAt with
              | error e => simp [bind, Except.bind]
              | ok completedAt =>
                  simp [bind, Except.bind, pure, Except.pure]
                  constructor
                  · intro h
                    exact h.symm
                  · intro h
                    exact h.symm

theorem record_ofDraft {now : Time.Instant} (h : now.IsDatable) (d : Draft) :
    (ofDraft now d).record = .ok (Record.ofDraft now d) := by
  apply record_eq_ok_iff.mpr
  refine ⟨.created, now.cut, none, none, readStatus_name .created, readStamp_stamp 6 h, rfl,
    rfl, ?_⟩
  simp [Record.ofDraft, ofDraft]

theorem record_moved {now : Time.Instant} (h : now.IsDatable) {c : Columns} {r : Record}
    (hr : c.record = .ok r) (status : Status) (message : Option String) :
    (c.moved now status message).record = .ok (r.moved now status message) := by
  rcases record_eq_ok_iff.mp hr with
    ⟨_, createdAt, startedAt, completedAt, _, hcreated, hstarted, hcompleted, rfl⟩
  apply record_eq_ok_iff.mpr
  refine ⟨status, createdAt, if status == .started then some now.cut else startedAt,
    if status.isFinal then some now.cut else completedAt, readStatus_name status, hcreated,
    ?_, ?_, rfl⟩
  · cases hstart : status == .started with
    | true =>
        simp only [moved, hstart, if_true]
        exact readOptionalStamp_stamp 7 h
    | false =>
        simp only [moved, hstart]
        exact hstarted
  · cases hfinal : status.isFinal with
    | true =>
        simp only [moved, hfinal, if_true]
        exact readOptionalStamp_stamp 8 h
    | false =>
        simp only [moved, hfinal]
        exact hcompleted

theorem status_of_record {c : Columns} {r : Record} (h : c.record = .ok r) :
    Status.ofName? c.status = some r.status := by
  rcases record_eq_ok_iff.mp h with ⟨status, _, _, _, hstatus, _, _, _, rfl⟩
  unfold readStatus at hstatus
  cases hname : Status.ofName? c.status with
  | none =>
      rw [hname] at hstatus
      cases hstatus
  | some s =>
      rw [hname] at hstatus
      cases hstatus
      rfl

theorem ofName?_eq_some_iff {text : String} {s : Status} :
    Status.ofName? text = some s ↔ text = s.name := by
  constructor
  · intro h
    have hfound := List.find?_some h
    have heq : s.name = text := by simpa using hfound
    exact heq.symm
  · intro h
    subst h
    exact Status.ofName?_name s

theorem status_eq_name_iff {c : Columns} {r : Record} (h : c.record = .ok r) (s : Status) :
    c.status = s.name ↔ r.status = s := by
  have hstatus := status_of_record h
  constructor
  · intro hname
    rw [hname, Status.ofName?_name] at hstatus
    exact (Option.some.inj hstatus).symm
  · intro hs
    rw [hs] at hstatus
    exact ofName?_eq_some_iff.mp hstatus

end Columns

namespace Row

theorem record_ofDraft {now : Time.Instant} (h : now.IsDatable) (d : Draft) :
    (ofDraft now d).record = .ok (Record.ofDraft now d) :=
  Columns.record_ofDraft h d

theorem record_moved {now : Time.Instant} (h : now.IsDatable) {row : Row} {r : Record}
    (hr : row.record = .ok r) (status : Status) (message : Option String) :
    (row.moved now status message).record = .ok (r.moved now status message) :=
  Columns.record_moved h hr status message

theorem isStranded_iff {row : Row} {r : Record} (h : row.record = .ok r) :
    row.isStranded = true ↔ row.inFlight = true ∧ r.status = .created := by
  simp [isStranded, Columns.status_eq_name_iff h]

end Row
end Record
end FleetBridge
