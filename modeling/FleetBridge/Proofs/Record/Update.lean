import FleetBridge.Proofs.Record.Advance
import FleetBridge.Proofs.Record.History

/-!
# Moves and their refusals

A record moves exactly if the lifecycle admits the move, and then nothing changes but what
the move has to change.  An update, a beginning or an outcome that is refused leaves every
record as it was.  An outcome ends its unit of work all the same, and nobody comes back to
the record for it.
-/

namespace FleetBridge
namespace Record

structure Moves (now : Time.Instant) (target : Status) (message : Option String)
    (r r' : Record) : Prop where
  status : r'.status = target
  given : ∀ {m}, message = some m → (target = .failed → Text.isAllBlank m = false) →
    r'.errorMessage = some m
  unspecified : target = .failed → (∀ m, message = some m → Text.isAllBlank m = true) →
    r'.errorMessage = some unspecifiedFailure
  kept : message = none → target ≠ .failed → r'.errorMessage = r.errorMessage
  started : target = .started → r'.startedAt = some now.cut
  unstarted : target ≠ .started → r'.startedAt = r.startedAt
  ended : target = .completed ∨ target = .failed ∨ target = .cancelled →
    r'.completedAt = some now.cut
  unended : ¬ (target = .completed ∨ target = .failed ∨ target = .cancelled) →
    r'.completedAt = r.completedAt
  rest : r' =
    { r with
      status := r'.status
      errorMessage := r'.errorMessage
      startedAt := r'.startedAt
      completedAt := r'.completedAt }

theorem messageFor_of_given {status : Status} {m : String}
    (h : status = .failed → Text.isAllBlank m = false) :
    Columns.messageFor status (some m) = some m := by
  unfold Columns.messageFor
  by_cases hfailed : status = .failed
  · simp [hfailed, h hfailed]
  · simp [hfailed]

theorem messageFor_of_blank {message : Option String}
    (h : ∀ m, message = some m → Text.isAllBlank m = true) :
    Columns.messageFor .failed message = some unspecifiedFailure := by
  cases message with
  | none => rfl
  | some m => simp [Columns.messageFor, h m rfl]

theorem messageFor_none {status : Status} (h : status ≠ .failed) :
    Columns.messageFor status none = none := by
  simp [Columns.messageFor, h]

theorem moves_moved (now : Time.Instant) (target : Status) (message : Option String)
    (r : Record) : Moves now target message r (r.moved now target message) where
  status := rfl
  given {m} hmessage hblank := by
    subst hmessage
    simp only [moved, messageFor_of_given hblank, Option.some_or]
  unspecified hfailed hblank := by
    subst hfailed
    simp only [moved, messageFor_of_blank hblank, Option.some_or]
  kept hmessage hfailed := by
    subst hmessage
    simp only [moved, messageFor_none hfailed, Option.none_or]
  started hstarted := by
    subst hstarted
    rfl
  unstarted hstarted := by simp [moved, hstarted]
  ended hended := by simp only [moved, Status.isFinal_iff.mpr hended, if_true]
  unended hended := by
    rw [← Status.isFinal_iff] at hended
    simp only [moved, if_neg hended]
  rest := rfl

/-!
# One answer
-/

namespace Store

inductive Answers (now : Time.Instant) (orderId : String) (status : Status)
    (message : Option String) (s : Store) : Except Error (Record × Store) → Prop where
  | unknown (hget : s.get orderId = .error (.notFound orderId)) :
      Answers now orderId status message s (.error (.notFound orderId))
  | barred {r : Record} (hget : s.get orderId = .ok r) (hedge : ¬ r.status.Edge status) :
      Answers now orderId status message s
        (.error (.invalidTransition orderId r.status status))
  | moved {row : Row} {r : Record} (hrow : s.row? orderId = some row)
      (hr : row.record = .ok r) (hedge : r.status.Edge status) :
      Answers now orderId status message s
        (.ok (r.moved now status message,
          s.modify orderId (Row.moved now status message)
            (Row.orderId_moved now status message)))

section

variable {now : Time.Instant} {orderId : String} {s : Store}

theorem answers_update (hnow : now.IsDatable)
    (hread : ∀ {row}, s.row? orderId = some row → ∃ r, row.record = .ok r) (status : Status)
    (message : Option String) :
    Answers now orderId status message s (s.update now orderId status message) := by
  cases hrow : s.row? orderId with
  | none =>
      rw [update_of_absent hrow]
      exact Answers.unknown (get_eq_notFound_iff.mpr hrow)
  | some row =>
      rcases hread hrow with ⟨r, hr⟩
      cases ha : r.status.admits status with
      | true =>
          rw [update_of_admits hnow hrow hr ha message]
          exact Answers.moved hrow hr (Status.admits_iff_edge.mp ha)
      | false =>
          rw [update_of_refused hrow hr ha]
          apply Answers.barred (get_of_row? hrow hr)
          intro hedge
          rw [Status.admits_iff_edge.mpr hedge] at ha
          cases ha

theorem Answers.of_ok {status : Status} {message : Option String} {r' : Record} {t : Store}
    (h : Answers now orderId status message s (.ok (r', t))) :
    ∃ row r, s.row? orderId = some row ∧ row.record = .ok r ∧ r.status.Edge status ∧
      r' = r.moved now status message ∧
      t = s.modify orderId (Row.moved now status message)
        (Row.orderId_moved now status message) := by
  cases h with
  | moved hrow hr hedge => exact ⟨_, _, hrow, hr, hedge, rfl, rfl⟩

theorem Answers.of_error {status : Status} {message : Option String} {e : Error}
    (h : Answers now orderId status message s (.error e)) :
    s.get orderId = .error (.notFound orderId) ∧ e = .notFound orderId ∨
      ∃ r, s.get orderId = .ok r ∧ ¬ r.status.Edge status ∧
        e = .invalidTransition orderId r.status status := by
  cases h with
  | unknown hget => exact Or.inl ⟨hget, rfl⟩
  | barred hget hedge => exact Or.inr ⟨_, hget, hedge, rfl⟩

theorem get_land (s : Store) (orderId other : String) :
    (s.land orderId).get other = s.get other := by
  unfold get
  by_cases hid : other = orderId
  · subst hid
    rw [row?_land_self]
    cases s.row? other <;> rfl
  · rw [row?_land_of_ne s hid]

theorem get_discard_of_ne_created {r : Record} (hget : s.get orderId = .ok r)
    (hcreated : r.status ≠ .created) (unit : String) :
    (s.discard unit).get orderId = .ok r := by
  rcases get_eq_ok_iff.mp hget with ⟨row, hrow, hr⟩
  by_cases hid : orderId = unit
  · subst hid
    have hstranded : ¬ row.isStranded = true := by
      intro h
      exact hcreated ((Row.isStranded_iff hr).mp h).2
    have hlanded : (s.discard orderId).row? orderId = some row.land := by
      rw [row?_discard_self, hrow, Option.bind_some, if_neg hstranded]
    exact get_of_row? hlanded hr
  · exact get_of_row? ((row?_discard_of_ne s hid).trans hrow) hr

theorem get_recover_of_ne_created {r : Record} (hget : s.get orderId = .ok r)
    (hcreated : r.status ≠ .created) {records : List Record} {t : Store}
    (h : s.recover now = .ok (records, t)) : t.get orderId = .ok r := by
  rcases get_eq_ok_iff.mp hget with ⟨row, hrow, hr⟩
  have hnot : orderId ∉ s.stranded := by
    intro hmem
    rcases mem_stranded_iff.mp hmem with ⟨other, hother, hstranded⟩
    rw [hrow] at hother
    cases hother
    exact hcreated ((Row.isStranded_iff hr).mp hstranded).2
  rw [recover_eq] at h
  cases hfail : failEach now s.stranded ([], s) with
  | error e =>
      rw [hfail] at h
      cases h
  | ok failed =>
      rcases failed with ⟨records', next⟩
      rw [hfail] at h
      cases h
      rw [get_map_land, get, (row?_of_failEach s.nodup_stranded hfail orderId).1 hnot]
      exact hget

end

end Store

namespace Ledger

def IsReadable (l : Ledger) : Prop :=
  ∀ {orderId row}, l.store.row? orderId = some row → ∃ r, row.record = .ok r

/-!
# Updates
-/

structure Updates (now : Time.Moment) (orderId : String) (status : Status)
    (message : Option String) (l : Ledger) : Prop where
  accepted :
    (∃ r' t, l.store.update now.instant orderId status message = .ok (r', t)) ↔
      ∃ r, l.store.get orderId = .ok r ∧ r.status.Edge status
  moved : ∀ {r' t}, l.store.update now.instant orderId status message = .ok (r', t) →
    ∃ r, l.store.get orderId = .ok r ∧ Moves now.instant status message r r' ∧
      (l.step now (.update orderId status message)).store.get orderId = .ok r'
  others : ∀ {other}, other ≠ orderId →
    (l.step now (.update orderId status message)).store.row? other = l.store.row? other
  refused : ∀ {e}, l.store.update now.instant orderId status message = .error e →
    l.step now (.update orderId status message) = l ∧
      (l.store.get orderId = .error (.notFound orderId) ∧ e = .notFound orderId ∨
        ∃ r, l.store.get orderId = .ok r ∧ ¬ r.status.Edge status ∧
          e = .invalidTransition orderId r.status status)

section

variable {l : Ledger} {now : Time.Moment}

theorem step_update_of_ok {orderId : String} {status : Status} {message : Option String}
    {r : Record} {t : Store}
    (h : l.store.update now.instant orderId status message = .ok (r, t)) :
    l.step now (.update orderId status message) = { l with store := t } := by
  simp only [step, h]

theorem step_update_of_error {orderId : String} {status : Status} {message : Option String}
    {e : Store.Error} (h : l.store.update now.instant orderId status message = .error e) :
    l.step now (.update orderId status message) = l := by
  simp only [step, h]

theorem updates (hl : l.IsReadable) (hnow : now.IsDatable) (orderId : String) (status : Status)
    (message : Option String) : Updates now orderId status message l := by
  have hinstant := Time.Moment.isDatable_instant hnow
  have hanswers := Store.answers_update hinstant (@hl orderId) status message
  constructor
  · constructor
    · intro h
      rcases h with ⟨r', t, hupdate⟩
      rw [hupdate] at hanswers
      rcases hanswers.of_ok with ⟨row, r, hrow, hr, hedge, _⟩
      exact ⟨r, Store.get_of_row? hrow hr, hedge⟩
    · intro h
      rcases h with ⟨r, hget, hedge⟩
      rcases Store.get_eq_ok_iff.mp hget with ⟨row, hrow, hr⟩
      have ha := Status.admits_iff_edge.mpr hedge
      exact ⟨_, _, Store.update_of_admits hinstant hrow hr ha message⟩
  · intro r' t hupdate
    rw [step_update_of_ok hupdate]
    rw [hupdate] at hanswers
    rcases hanswers.of_ok with ⟨row, r, hrow, hr, _, rfl, rfl⟩
    refine ⟨r, Store.get_of_row? hrow hr, moves_moved _ _ _ r, ?_⟩
    apply Store.get_of_row?
    · rw [Store.row?_modify_self, hrow]
      rfl
    · exact Row.record_moved hinstant hr status message
  · intro other hne
    cases hupdate : l.store.update now.instant orderId status message with
    | error e => rw [step_update_of_error hupdate]
    | ok moved =>
        rw [step_update_of_ok hupdate]
        rw [hupdate] at hanswers
        rcases hanswers.of_ok with ⟨_, _, _, _, _, _, hstore⟩
        rw [hstore]
        exact Store.row?_modify_of_ne (Row.orderId_moved _ _ _) l.store hne
  · intro e hupdate
    rw [hupdate] at hanswers
    exact ⟨step_update_of_error hupdate, hanswers.of_error⟩

/-!
# Beginnings
-/

/-- What beginning a dispatch answers, and that a refusal changes nothing. -/
structure Begins (now : Time.Moment) (d : Draft) (l : Ledger) : Prop where
  accepted : (∃ t, l.store.begin now.instant d = .ok t) ↔
    l.store.get d.orderId = .error (.notFound d.orderId)
  refused : ∀ {e}, l.store.begin now.instant d = .error e →
    l.step now (.begin d) = l ∧ e = .duplicate d.orderId ∧
      ∃ r, l.store.get d.orderId = .ok r

theorem begins (hl : l.IsReadable) (now : Time.Moment) (d : Draft) : Begins now d l where
  accepted := by
    rw [Store.get_eq_notFound_iff]
    constructor
    · intro h
      rcases h with ⟨t, hbegin⟩
      exact Store.row?_eq_none_of_begin hbegin
    · intro hfree
      exact Store.exists_begin hfree now.instant
  refused {e} hbegin := by
    refine ⟨by simp only [step, hbegin], Store.eq_duplicate_of_begin hbegin, ?_⟩
    cases hrow : l.store.row? d.orderId with
    | none =>
        rcases Store.exists_begin hrow now.instant with ⟨t, hok⟩
        cases hbegin.symm.trans hok
    | some row =>
        rcases hl hrow with ⟨r, hr⟩
        exact ⟨r, Store.get_of_row? hrow hr⟩

end

/-!
# Outcomes
-/

inductive Outcome where
  | sent
  | failed (reason : String)

namespace Outcome

def status : Outcome → Status
  | sent => .sent
  | failed _ => .failed

def message : Outcome → Option String
  | sent => none
  | failed reason => some reason

def op (orderId : String) : Outcome → Op
  | sent => .commitSent orderId
  | failed reason => .commitFailed orderId reason

def answer (now : Time.Moment) (orderId : String) (s : Store) (o : Outcome) :
    Except Store.Error Record :=
  (s.settle now.instant orderId o.status o.message).1

end Outcome

/-- No record tells that the unit of work of an order has ended, and nothing comes of it
later. -/
structure Spent (orderId : String) (before after : Ledger) : Prop where
  kept : ∀ other, after.store.get other = before.store.get other
  ended : orderId ∉ after.units
  recovered : ∀ {later : List Entry}, Time.AllDatable later → ∀ now,
    ((after.run later).step now .recover).store.get orderId =
      (after.run later).store.get orderId
  dropped : ∀ {later : List Entry}, Time.AllDatable later → ∀ now,
    ((after.run later).step now (.drop orderId)).store.get orderId =
      (after.run later).store.get orderId

structure Commits (now : Time.Moment) (orderId : String) (o : Outcome) (l : Ledger) :
    Prop where
  accepted : (∃ r', o.answer now orderId l.store = .ok r') ↔
    ∃ r, l.store.get orderId = .ok r ∧ r.status.Edge o.status
  refused : ∀ {e}, o.answer now orderId l.store = .error e →
    Spent orderId l (l.step now (o.op orderId)) ∧
      ∃ r, l.store.get orderId = .ok r ∧ ¬ r.status.Edge o.status ∧
        e = .invalidTransition orderId r.status o.status

section

variable {l : Ledger} {orderId : String} {r : Record}

theorem exists_get_run_of_ne_created (hl : l.Sound)
    (hrows : ∀ {orderId row}, l.store.row? orderId = some row → row.IsWellFormed)
    {ops : List Entry} (hops : Time.AllDatable ops) (hget : l.store.get orderId = .ok r)
    (hcreated : r.status ≠ .created) :
    ∃ r', (l.run ops).store.get orderId = .ok r' ∧ r'.status ≠ .created := by
  induction ops generalizing l r with
  | nil => exact ⟨r, hget, hcreated⟩
  | cons e ops ih =>
      rcases hops.cons with ⟨he, hrest⟩
      have hpassage := passage hl hrows he e.2 orderId
      rw [hget] at hpassage
      generalize hafter : (l.step e.1 e.2).store.get orderId = after at hpassage
      have hrows' : ∀ {orderId row}, (l.step e.1 e.2).store.row? orderId = some row →
          row.IsWellFormed := isWellFormed_step hl he e.2 hrows
      cases hpassage with
      | kept => exact ih (hl.step he e.2) hrows' hrest hafter hcreated
      | moved hedge message =>
          exact ih (hl.step he e.2) hrows' hrest hafter
            (Status.ne_created_of_admits (Status.admits_iff_edge.mpr hedge))
      | discarded _ _ hnew => exact absurd hnew hcreated

theorem get_step_recover (hget : l.store.get orderId = .ok r) (hcreated : r.status ≠ .created)
    (now : Time.Moment) : (l.step now .recover).store.get orderId = .ok r := by
  simp only [step]
  cases hrecover : l.store.recover now.instant with
  | error e => exact hget
  | ok recovered => exact Store.get_recover_of_ne_created hget hcreated hrecover

theorem get_step_drop (hget : l.store.get orderId = .ok r) (hcreated : r.status ≠ .created)
    (now : Time.Moment) : (l.step now (.drop orderId)).store.get orderId = .ok r := by
  simp only [step, close]
  split
  · exact Store.get_discard_of_ne_created hget hcreated orderId
  · exact hget

theorem step_op (now : Time.Moment) (orderId : String) (o : Outcome) (l : Ledger) :
    l.step now (o.op orderId) =
      l.close orderId (fun s => (s.settle now.instant orderId o.status o.message).2) := by
  cases o <;> rfl

theorem Outcome.ne_created_of_not_edge {o : Outcome} {s : Status} (h : ¬ s.Edge o.status) :
    s ≠ .created := by
  intro hcreated
  subst hcreated
  apply h
  cases o with
  | sent => exact Status.Edge.send
  | failed reason => exact Status.Edge.fail (Or.inl rfl)

theorem spent_of_refused (hl : l.Sound)
    (hrows : ∀ {orderId row}, l.store.row? orderId = some row → row.IsWellFormed)
    {now : Time.Moment} (hnow : now.IsDatable) {o : Outcome} (hunit : orderId ∈ l.units)
    (hget : l.store.get orderId = .ok r) (hedge : ¬ r.status.Edge o.status)
    (hstore : (l.store.settle now.instant orderId o.status o.message).2 =
      l.store.land orderId) : Spent orderId l (l.step now (o.op orderId)) := by
  have hcreated := o.ne_created_of_not_edge hedge
  have hstep : l.step now (o.op orderId) =
      { store := l.store.land orderId, units := l.units.erase orderId } := by
    rw [step_op, close, if_pos hunit, hstore]
  have hkept : ∀ other, (l.step now (o.op orderId)).store.get other = l.store.get other := by
    intro other
    rw [hstep]
    exact Store.get_land l.store orderId other
  have hthere : ∀ {later : List Entry}, Time.AllDatable later →
      ∃ r', ((l.step now (o.op orderId)).run later).store.get orderId = .ok r' ∧
        r'.status ≠ .created := by
    intro later hlater
    exact exists_get_run_of_ne_created (hl.step hnow _)
      (isWellFormed_step hl hnow _ hrows) hlater ((hkept orderId).trans hget) hcreated
  refine ⟨hkept, ?_, ?_, ?_⟩
  · rw [hstep]
    exact hl.nodup.not_mem_erase
  · intro later hlater again
    rcases hthere hlater with ⟨r', hget', hcreated'⟩
    rw [hget', get_step_recover hget' hcreated']
  · intro later hlater again
    rcases hthere hlater with ⟨r', hget', hcreated'⟩
    rw [hget', get_step_drop hget' hcreated']

theorem commits (hl : l.Sound)
    (hrows : ∀ {orderId row}, l.store.row? orderId = some row → row.IsWellFormed)
    {now : Time.Moment} (hnow : now.IsDatable) (hunit : orderId ∈ l.units) (o : Outcome) :
    Commits now orderId o l := by
  have hinstant := Time.Moment.isDatable_instant hnow
  rcases hl.row hunit with ⟨row, hrow, r, hr, _⟩
  have hget := Store.get_of_row? hrow hr
  cases ha : r.status.admits o.status with
  | true =>
      have hsettle := Store.settle_of_admits hinstant hrow hr ha o.message
      have hanswer : o.answer now orderId l.store = .ok _ := congrArg Prod.fst hsettle
      refine ⟨⟨?_, ?_⟩, ?_⟩
      · intro _
        exact ⟨r, hget, Status.admits_iff_edge.mp ha⟩
      · intro _
        exact ⟨_, hanswer⟩
      · intro e herror
        cases hanswer.symm.trans herror
  | false =>
      have hsettle := @Store.settle_of_refused now.instant _ _ o.message _ _ _ hrow hr ha
      have hanswer : o.answer now orderId l.store = .error _ := congrArg Prod.fst hsettle
      have hedge : ¬ r.status.Edge o.status := by
        rw [← Status.admits_iff_edge, ha]
        exact Bool.false_ne_true
      refine ⟨⟨?_, ?_⟩, ?_⟩
      · intro h
        rcases h with ⟨r', hok⟩
        cases hanswer.symm.trans hok
      · intro h
        rcases h with ⟨r', hget', hedge'⟩
        cases hget.symm.trans hget'
        exact absurd hedge' hedge
      · intro e herror
        cases hanswer.symm.trans herror
        exact ⟨spent_of_refused hl hrows hnow hunit hget hedge (congrArg Prod.snd hsettle), r,
          hget, hedge, rfl⟩

end

/-- Whatever was done to a store that was fresh once: it accepts what the lifecycle admits,
and what it refuses changes nothing that a reader can see. -/
theorem atomic_run {ops : List Entry} (hops : Time.AllDatable ops) {now : Time.Moment}
    (hnow : now.IsDatable) :
    (∀ orderId status message, Updates now orderId status message (empty.run ops)) ∧
    (∀ d, Begins now d (empty.run ops)) ∧
    (∀ orderId ∈ (empty.run ops).units, ∀ o, Commits now orderId o (empty.run ops)) := by
  have hempty : empty.Sound := Sound.of_no_units .empty
  have hrows : ∀ {orderId row}, (empty.run ops).store.row? orderId = some row →
      row.IsWellFormed := isWellFormed_run hempty hops nofun
  have hreadable : (empty.run ops).IsReadable := by
    intro orderId row hrow
    rcases hrows hrow with ⟨r, hr, _⟩
    exact ⟨r, hr⟩
  exact ⟨updates hreadable hnow, begins hreadable now,
    fun orderId hunit => commits (hempty.run hops) hrows hnow hunit⟩

/-- The send of an order that was cancelled succeeds after all: the answer is a refusal, and
the record is still the one that was cancelled. -/
theorem atomic_run_cancelledEarly :
    let l := empty.run cancelledEarly
    let now : Time.Moment := { wall := 500000000, elapsed := 500000000 }
    Outcome.sent.answer now "order-1" l.store =
        .error (.invalidTransition "order-1" .cancelled .sent) ∧
      Spent "order-1" l (l.step now (.commitSent "order-1")) ∧
      l.step now (.update "order-1" .started none) = l := by
  intro l now
  have hops : Time.AllDatable cancelledEarly := by decide +kernel
  have hnow : now.IsDatable := by decide +kernel
  have hunit : "order-1" ∈ l.units := by decide +kernel
  have hanswer : Outcome.sent.answer now "order-1" l.store =
      .error (.invalidTransition "order-1" .cancelled .sent) := by decide +kernel
  have hcancelled : (l.store.get "order-1").map Record.status = .ok .cancelled := by
    decide +kernel
  rcases Store.exists_get_of_status hcancelled with ⟨r, hget, hstatus⟩
  rcases Store.get_eq_ok_iff.mp hget with ⟨row, hrow, hr⟩
  have hupdate := @Store.update_of_refused now.instant "order-1" .started none l.store row r
    hrow hr (by rw [hstatus]; rfl)
  rcases atomic_run hops hnow with ⟨hupdates, _, hcommits⟩
  exact ⟨hanswer, ((hcommits "order-1" hunit .sent).refused hanswer).1,
    ((hupdates "order-1" .started none).refused hupdate).1⟩

end Ledger
end Record
end FleetBridge
