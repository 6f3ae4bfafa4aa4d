import FleetBridge.Proofs.Record.Ledger

/-!
# Records are well formed

The status of a record tells which of its other columns are set, and as long as the
wall clock does not step back their times follow one another.  A record that is
still new has its flag up.
-/

namespace FleetBridge
namespace Record

/-- What the status says about the other columns. -/
structure WellFormed (r : Record) : Prop where
  completed : r.completedAt ≠ none ↔
    r.status = .completed ∨ r.status = .failed ∨ r.status = .cancelled
  started : r.status = .started → r.startedAt ≠ none
  unstarted : r.status = .created ∨ r.status = .sent → r.startedAt = none
  reason : r.status = .failed → ∃ m, r.errorMessage = some m ∧ Text.isAllBlank m = false

structure Chronological (r : Record) : Prop where
  started : ∀ {i}, r.startedAt = some i → r.createdAt.toNanos ≤ i.toNanos
  completed : ∀ {i}, r.completedAt = some i → r.createdAt.toNanos ≤ i.toNanos
  finished : ∀ {i j}, r.startedAt = some i → r.completedAt = some j → i.toNanos ≤ j.toNanos

theorem exists_messageFor_failed (message : Option String) :
    ∃ m, Columns.messageFor .failed message = some m ∧ Text.isAllBlank m = false := by
  have hunspecified : Text.isAllBlank unspecifiedFailure = false := by decide
  cases message with
  | none => exact ⟨_, rfl, hunspecified⟩
  | some m =>
      cases hm : Text.isAllBlank m with
      | true =>
          refine ⟨unspecifiedFailure, ?_, hunspecified⟩
          simp [Columns.messageFor, hm]
      | false =>
          refine ⟨m, ?_, hm⟩
          simp [Columns.messageFor, hm]

theorem WellFormed.ofDraft (now : Time.Instant) (d : Draft) : (ofDraft now d).WellFormed where
  completed := by simp [Record.ofDraft]
  started := nofun
  unstarted := fun _ => rfl
  reason := nofun

theorem WellFormed.completedAt_eq_none {r : Record} (h : r.WellFormed)
    (hopen : r.status.isFinal = false) : r.completedAt = none := by
  by_cases hnone : r.completedAt = none
  · exact hnone
  · rw [Status.isFinal_iff.mpr (h.completed.mp hnone)] at hopen
    cases hopen

theorem WellFormed.moved {r : Record} (h : r.WellFormed) {status : Status}
    (ha : r.status.admits status = true) (now : Time.Instant) (message : Option String) :
    (r.moved now status message).WellFormed where
  completed := by
    show (if status.isFinal then some now.cut else r.completedAt) ≠ none ↔
      status = .completed ∨ status = .failed ∨ status = .cancelled
    rw [← Status.isFinal_iff]
    cases hfinal : status.isFinal with
    | true => simp
    | false => simp [h.completedAt_eq_none (Status.not_isFinal_of_admits ha)]
  started := by
    show status = .started →
      (if status == .started then some now.cut else r.startedAt) ≠ none
    intro hstarted
    simp [hstarted]
  unstarted := by
    show status = .created ∨ status = .sent →
      (if status == .started then some now.cut else r.startedAt) = none
    intro hstatus
    rcases hstatus with rfl | rfl
    · exact absurd rfl (Status.ne_created_of_admits ha)
    · exact h.unstarted (Or.inl (Status.eq_created_of_admits_sent ha))
  reason := by
    show status = .failed → ∃ m,
      (Columns.messageFor status message).or r.errorMessage = some m ∧ Text.isAllBlank m = false
    intro hfailed
    subst hfailed
    rcases exists_messageFor_failed message with ⟨m, hm, hblank⟩
    exact ⟨m, by simp [hm], hblank⟩

/-- The times follow one another and none of those before the end is later than
`latest`. -/
structure ChronologicalUntil (latest : Int) (r : Record) : Prop extends Chronological r where
  created_le : r.createdAt.toNanos ≤ latest
  started_le : ∀ {i}, r.startedAt = some i → i.toNanos ≤ latest

theorem ChronologicalUntil.mono {latest later : Int} (hle : latest ≤ later) {r : Record}
    (h : r.ChronologicalUntil latest) : r.ChronologicalUntil later where
  toChronological := h.toChronological
  created_le := Int.le_trans h.created_le hle
  started_le hi := Int.le_trans (h.started_le hi) hle

theorem ChronologicalUntil.ofDraft (now : Time.Instant) (d : Draft) :
    (ofDraft now d).ChronologicalUntil now.cut.toNanos where
  started := nofun
  completed := nofun
  finished := nofun
  created_le := Int.le_refl _
  started_le := nofun

theorem startedAt_moved {r : Record} {now i : Time.Instant} {status : Status}
    {message : Option String} (h : (r.moved now status message).startedAt = some i) :
    i = now.cut ∨ r.startedAt = some i := by
  cases hstarted : status == .started with
  | true =>
      simp only [Record.moved, hstarted, if_true, Option.some.injEq] at h
      exact Or.inl h.symm
  | false =>
      simp only [Record.moved, hstarted] at h
      exact Or.inr h

theorem completedAt_moved {r : Record} (hr : r.completedAt = none) {now i : Time.Instant}
    {status : Status} {message : Option String}
    (h : (r.moved now status message).completedAt = some i) : i = now.cut := by
  cases hfinal : status.isFinal with
  | true =>
      simp only [Record.moved, hfinal, if_true, Option.some.injEq] at h
      exact h.symm
  | false =>
      simp only [Record.moved, hfinal, hr] at h
      cases h

/-- Starting sets the first time and ending the last, to the time of the move; neither
time is set twice. -/
theorem ChronologicalUntil.moved {latest : Int} {r : Record} (h : r.ChronologicalUntil latest)
    (hr : r.WellFormed) {status : Status} (ha : r.status.admits status = true)
    {now : Time.Instant} (hle : latest ≤ now.cut.toNanos) (message : Option String) :
    (r.moved now status message).ChronologicalUntil now.cut.toNanos := by
  have hcreated := Int.le_trans h.created_le hle
  have hnone := hr.completedAt_eq_none (Status.not_isFinal_of_admits ha)
  constructor
  · constructor
    · intro i hi
      rcases startedAt_moved hi with rfl | hold
      · exact hcreated
      · exact h.started hold
    · intro i hi
      rw [completedAt_moved hnone hi]
      exact hcreated
    · intro i j hi hj
      rw [completedAt_moved hnone hj]
      rcases startedAt_moved hi with rfl | hold
      · exact Int.le_refl _
      · exact Int.le_trans (h.started_le hold) hle
  · exact hcreated
  · intro i hi
    rcases startedAt_moved hi with rfl | hold
    · exact Int.le_refl _
    · exact Int.le_trans (h.started_le hold) hle

/-!
# Rows
-/

namespace Row

/-- The record of the row is well formed, and if it is new then the flag is up. -/
def IsWellFormed (row : Row) : Prop :=
  ∃ r, row.record = .ok r ∧ r.WellFormed ∧ (r.status = .created → row.inFlight = true)

/-- The record of the row has no time before its end that is later than `latest`. -/
def IsChronological (latest : Int) (row : Row) : Prop :=
  ∃ r, row.record = .ok r ∧ r.ChronologicalUntil latest

theorem isWellFormed_ofDraft {now : Time.Instant} (h : now.IsDatable) (d : Draft) :
    (ofDraft now d).IsWellFormed :=
  ⟨_, record_ofDraft h d, WellFormed.ofDraft now d, fun _ => rfl⟩

theorem IsWellFormed.change {now : Time.Instant} (hnow : now.IsDatable) {row row' : Row}
    (h : row.IsWellFormed) (hchange : Change now row row') : row'.IsWellFormed := by
  rcases h with ⟨r, hr, hwell, hflag⟩
  rcases Sound.change hnow ⟨r, hr, hflag⟩ hchange with ⟨r', hr', hflag'⟩
  refine ⟨r', hr', ?_, hflag'⟩
  rcases hchange.eq_or_moved hnow hr hr' with rfl | ⟨status, message, ha, rfl⟩
  · exact hwell
  · exact hwell.moved ha now message

theorem isChronological_ofDraft {now : Time.Instant} (h : now.IsDatable) (d : Draft) :
    (ofDraft now d).IsChronological now.cut.toNanos :=
  ⟨_, record_ofDraft h d, ChronologicalUntil.ofDraft now d⟩

theorem IsChronological.change {now : Time.Instant} (hnow : now.IsDatable) {latest : Int}
    (hle : latest ≤ now.cut.toNanos) {row row' : Row} (hwell : row.IsWellFormed)
    (h : row.IsChronological latest) (hchange : Change now row row') :
    row'.IsChronological now.cut.toNanos := by
  rcases hwell with ⟨r, hr, hwell, _⟩
  rcases h with ⟨r₁, hr₁, h⟩
  rw [hr] at hr₁
  cases hr₁
  rcases hchange.record hnow hr with hsame | ⟨status, message, ha, hmoved⟩
  · exact ⟨r, hsame, h.mono hle⟩
  · exact ⟨_, hmoved, h.moved hwell ha hle message⟩

end Row

/-!
# Runs
-/

namespace Ledger

theorem forall_row_step {P Q : Row → Prop} {l : Ledger} (hl : l.Sound) {now : Time.Moment}
    (hnow : now.IsDatable) (op : Op) (hnew : ∀ d, Q (Row.ofDraft now.instant d))
    (hchange : ∀ {row row'}, Row.Change now.instant row row' → P row → Q row')
    (h : ∀ {orderId row}, l.store.row? orderId = some row → P row) {orderId : String}
    {row : Row} (hrow : (l.step now op).store.row? orderId = some row) : Q row := by
  have htransit := transit hl hnow op orderId
  rw [hrow] at htransit
  generalize hbefore : l.store.row? orderId = before at htransit
  cases htransit with
  | begun => exact hnew _
  | changed hrow' => exact hchange hrow' (h hbefore)

theorem isWellFormed_step {l : Ledger} (hl : l.Sound) {now : Time.Moment}
    (hnow : now.IsDatable) (op : Op)
    (h : ∀ {orderId row}, l.store.row? orderId = some row → row.IsWellFormed)
    {orderId : String} {row : Row} (hrow : (l.step now op).store.row? orderId = some row) :
    row.IsWellFormed := by
  have hinstant := Time.Moment.isDatable_instant hnow
  refine forall_row_step hl hnow op (Row.isWellFormed_ofDraft hinstant) ?_ h hrow
  intro before after hchange hbefore
  exact hbefore.change hinstant hchange

theorem forall_row_run {P : Row → Prop}
    (hnew : ∀ {now : Time.Instant}, now.IsDatable → ∀ d, P (Row.ofDraft now d))
    (hchange : ∀ {now : Time.Instant}, now.IsDatable →
      ∀ {row row' : Row}, Row.Change now row row' → P row → P row')
    {l : Ledger} (hl : l.Sound) {ops : List Entry} (hops : Time.AllDatable ops)
    (h : ∀ {orderId row}, l.store.row? orderId = some row → P row) {orderId : String}
    {row : Row} (hrow : (l.run ops).store.row? orderId = some row) : P row := by
  induction ops generalizing l with
  | nil => exact h hrow
  | cons e ops ih =>
      rcases hops.cons with ⟨he, hrest⟩
      have hinstant := Time.Moment.isDatable_instant he
      have hstep : ∀ {orderId row}, (l.step e.1 e.2).store.row? orderId = some row → P row :=
        forall_row_step hl he e.2 (hnew hinstant) (hchange hinstant) h
      exact ih (hl.step he e.2) hrest hstep hrow

theorem isWellFormed_run {l : Ledger} (hl : l.Sound) {ops : List Entry}
    (hops : Time.AllDatable ops)
    (h : ∀ {orderId row}, l.store.row? orderId = some row → row.IsWellFormed)
    {orderId : String} {row : Row} (hrow : (l.run ops).store.row? orderId = some row) :
    row.IsWellFormed := by
  refine forall_row_run Row.isWellFormed_ofDraft ?_ hl hops h hrow
  intro now hnow before after hchange hbefore
  exact hbefore.change hnow hchange

def NeverBack (ops : List Entry) : Prop :=
  ops.Pairwise (fun e f => e.1.wall ≤ f.1.wall)

instance (ops : List Entry) : Decidable (NeverBack ops) :=
  inferInstanceAs (Decidable (ops.Pairwise (fun e f => e.1.wall ≤ f.1.wall)))

theorem isChronological_run {l : Ledger} (hl : l.Sound) {ops : List Entry}
    (hops : Time.AllDatable ops) (hclock : NeverBack ops) {latest : Int}
    (hle : ∀ e ∈ ops, latest ≤ e.1.instant.cut.toNanos)
    (hwell : ∀ {orderId row}, l.store.row? orderId = some row → row.IsWellFormed)
    (h : ∀ {orderId row}, l.store.row? orderId = some row → row.IsChronological latest)
    {orderId : String} {row : Row} (hrow : (l.run ops).store.row? orderId = some row) :
    ∃ later, row.IsChronological later := by
  induction ops generalizing l latest with
  | nil => exact ⟨latest, h hrow⟩
  | cons e ops ih =>
      rcases hops.cons with ⟨he, hrest⟩
      rcases List.pairwise_cons.mp hclock with ⟨hfirst, hclock'⟩
      have hinstant := Time.Moment.isDatable_instant he
      have hlater : ∀ f ∈ ops, e.1.instant.cut.toNanos ≤ f.1.instant.cut.toNanos := by
        intro f hf
        exact Time.Moment.toNanos_cut_mono (hfirst f hf)
      -- The moment of this operation bounds every time that has been set by now.
      have hstep : ∀ {orderId row}, (l.step e.1 e.2).store.row? orderId = some row →
          row.IsChronological e.1.instant.cut.toNanos := by
        intro orderId row hrow
        refine @forall_row_step (fun row => row.IsWellFormed ∧ row.IsChronological latest) _
          l hl e.1 he e.2 (Row.isChronological_ofDraft hinstant) ?_ ?_ orderId row hrow
        · intro before after hchange hbefore
          exact hbefore.2.change hinstant (hle e List.mem_cons_self) hbefore.1 hchange
        · intro orderId row hrow
          exact ⟨hwell hrow, h hrow⟩
      exact ih (hl.step he e.2) hrest hclock' hlater (isWellFormed_step hl he e.2 hwell) hstep
        hrow

/-- Every record of a store that was fresh once can be read and is well formed, whoever
did what to it. -/
theorem wellFormed_run {ops : List Entry} (hops : Time.AllDatable ops) {row : Row}
    (hrow : row ∈ (empty.run ops).store.rows) :
    ∃ r, (empty.run ops).store.get row.orderId = .ok r ∧ r.WellFormed ∧
      (r.status = .created → row.inFlight = true) ∧
      (NeverBack ops → r.Chronological) := by
  have hfound := Store.row?_of_mem hrow
  have hsound : empty.Sound := Sound.of_no_units .empty
  rcases isWellFormed_run hsound hops nofun hfound with ⟨r, hr, hwell, hflag⟩
  refine ⟨r, Store.get_of_row? hfound hr, hwell, hflag, ?_⟩
  intro hclock
  cases ops with
  | nil => cases hrow
  | cons e ops =>
      have hle : ∀ f ∈ e :: ops, e.1.instant.cut.toNanos ≤ f.1.instant.cut.toNanos := by
        intro f hf
        rcases List.mem_cons.mp hf with rfl | hrest
        · exact Int.le_refl _
        · exact Time.Moment.toNanos_cut_mono ((List.pairwise_cons.mp hclock).1 f hrest)
      rcases isChronological_run hsound hops hclock hle nofun nofun hfound with
        ⟨_, r', hr', hchronological⟩
      rw [hr] at hr'
      cases hr'
      exact hchronological.toChronological

/-- An order that is sent, started and completed, half a second each. -/
def lifecycle : List Entry :=
  [ ({ wall := 0, elapsed := 0 },
      .begin { orderId := "order-1", templateId := none, device := "agv-01", revision := 0 }),
    ({ wall := 500000000, elapsed := 500000000 }, .commitSent "order-1"),
    ({ wall := 1000000000, elapsed := 1000000000 }, .update "order-1" .started none),
    ({ wall := 1500000000, elapsed := 1500000000 }, .update "order-1" .completed none) ]

theorem wellFormed_run_lifecycle :
    ∃ row ∈ (empty.run lifecycle).store.rows,
      ∃ r, (empty.run lifecycle).store.get row.orderId = .ok r ∧ r.status = .completed ∧
        r.WellFormed ∧ r.Chronological := by
  have hops : Time.AllDatable lifecycle := by decide +kernel
  have hclock : NeverBack lifecycle := by decide +kernel
  have hrows : (empty.run lifecycle).store.rows ≠ [] := by decide +kernel
  have hstatus : ∀ row ∈ (empty.run lifecycle).store.rows,
      ((empty.run lifecycle).store.get row.orderId).map Record.status = .ok .completed := by
    decide +kernel
  rcases List.exists_mem_of_ne_nil _ hrows with ⟨row, hrow⟩
  rcases wellFormed_run hops hrow with ⟨r, hget, hwell, _, hchronological⟩
  refine ⟨row, hrow, r, hget, ?_, hwell, hchronological hclock⟩
  have hcompleted := hstatus row hrow
  rw [hget] at hcompleted
  exact Except.ok.inj hcompleted

end Ledger
end Record
end FleetBridge
