import FleetBridge.Proofs.Record.Lookup

/-!
# What an operation does to a row

Once a row is in the store, an operation leaves it, takes its flag down, moves it
along the lifecycle, or does both of the last two at once.  The flag of a row that
is stranded comes down only together with a move.
-/

namespace FleetBridge
namespace Record

namespace Row

theorem orderId_land (row : Row) : row.land.orderId = row.orderId := rfl

theorem orderId_moved (now : Time.Instant) (status : Status) (message : Option String)
    (row : Row) : (row.moved now status message).orderId = row.orderId := rfl

/-- What an operation at the instant `now` makes of a row that stays. -/
inductive Change (now : Time.Instant) : Row → Row → Prop where
  | kept (row : Row) : Change now row row
  | landed {row : Row} (h : row.isStranded = false) : Change now row row.land
  | moved {row : Row} {r : Record} (h : row.record = .ok r) {status : Status}
      (ha : r.status.admits status = true) (message : Option String) :
      Change now row (row.moved now status message)
  | settled {row : Row} {r : Record} (h : row.record = .ok r) {status : Status}
      (ha : r.status.admits status = true) (message : Option String) :
      Change now row (row.land.moved now status message)

/-- A row that can be read, and whose flag is up while its record is new. -/
def Sound (row : Row) : Prop :=
  ∃ r, row.record = .ok r ∧ (r.status = .created → row.inFlight = true)

theorem sound_ofDraft {now : Time.Instant} (h : now.IsDatable) (d : Draft) :
    (ofDraft now d).Sound :=
  ⟨_, record_ofDraft h d, fun _ => rfl⟩

theorem Change.record {now : Time.Instant} (hnow : now.IsDatable) {row row' : Row}
    (h : Change now row row') {r : Record} (hr : row.record = .ok r) :
    row'.record = .ok r ∨
      ∃ status message, r.status.admits status = true ∧
        row'.record = .ok (r.moved now status message) := by
  cases h with
  | kept => exact Or.inl hr
  | landed => exact Or.inl hr
  | moved h ha message =>
      rw [hr] at h
      cases h
      exact Or.inr ⟨_, message, ha, record_moved hnow hr _ message⟩
  | settled h ha message =>
      rw [hr] at h
      cases h
      have hland : row.land.record = .ok r := hr
      exact Or.inr ⟨_, message, ha, record_moved hnow hland _ message⟩

theorem Change.eq_or_moved {now : Time.Instant} (hnow : now.IsDatable) {row row' : Row}
    (h : Change now row row') {r r' : Record} (hr : row.record = .ok r)
    (hr' : row'.record = .ok r') :
    r' = r ∨ ∃ status message, r.status.admits status = true ∧
      r' = r.moved now status message := by
  rcases h.record hnow hr with hsame | ⟨status, message, ha, hmoved⟩
  · rw [hr'] at hsame
    exact Or.inl (Except.ok.inj hsame)
  · rw [hr'] at hmoved
    exact Or.inr ⟨status, message, ha, Except.ok.inj hmoved⟩

theorem Sound.change {now : Time.Instant} (hnow : now.IsDatable) {row row' : Row}
    (hsound : row.Sound) (h : Change now row row') : row'.Sound := by
  rcases hsound with ⟨r, hr, hflag⟩
  cases h with
  | kept => exact ⟨r, hr, hflag⟩
  | landed hstranded =>
      refine ⟨r, hr, ?_⟩
      intro hcreated
      have htrue := (isStranded_iff hr).mpr ⟨hflag hcreated, hcreated⟩
      rw [hstranded] at htrue
      cases htrue
  | moved h ha message =>
      rw [hr] at h
      cases h
      refine ⟨_, record_moved hnow hr _ message, ?_⟩
      intro hcreated
      exact absurd hcreated (Status.ne_created_of_admits ha)
  | settled h ha message =>
      rw [hr] at h
      cases h
      have hland : row.land.record = .ok r := hr
      refine ⟨_, record_moved hnow hland _ message, ?_⟩
      intro hcreated
      exact absurd hcreated (Status.ne_created_of_admits ha)

end Row

namespace Store

/-- What an operation at the instant `now` makes of a store when rows neither come nor
go. -/
structure Changes (now : Time.Instant) (s t : Store) : Prop where
  row : ∀ {orderId row}, s.row? orderId = some row →
    ∃ row', t.row? orderId = some row' ∧ Row.Change now row row'
  absent : ∀ {orderId}, s.row? orderId = none → t.row? orderId = none

theorem Changes.refl (now : Time.Instant) (s : Store) : Changes now s s where
  row h := ⟨_, h, Row.Change.kept _⟩
  absent h := h

theorem Changes.of_row {now : Time.Instant} {s t : Store} {orderId : String} {row row' : Row}
    (hrow : s.row? orderId = some row) (hrow' : t.row? orderId = some row')
    (hchange : Row.Change now row row')
    (hother : ∀ other, other ≠ orderId → t.row? other = s.row? other) : Changes now s t where
  row := by
    intro other old hold
    by_cases hid : other = orderId
    · subst hid
      rw [hrow] at hold
      cases hold
      exact ⟨row', hrow', hchange⟩
    · exact ⟨old, by rw [hother other hid]; exact hold, Row.Change.kept old⟩
  absent := by
    intro other hnone
    by_cases hid : other = orderId
    · subst hid
      rw [hrow] at hnone
      cases hnone
    · rw [hother other hid]
      exact hnone

/-!
# Moves on behalf of a caller
-/

theorem transition_eq_ok_iff {now : Time.Instant} {orderId : String} {status : Status}
    {message : Option String} {s t : Store} :
    s.transition now orderId status message = .ok t ↔
      ∃ row r, s.row? orderId = some row ∧ row.record = .ok r ∧
        r.status.admits status = true ∧
        t = s.modify orderId (Row.moved now status message)
          (Row.orderId_moved now status message) := by
  unfold transition
  constructor
  · intro h
    cases hget : s.get orderId with
    | error e =>
        rw [hget] at h
        cases h
    | ok r =>
        rcases get_eq_ok_iff.mp hget with ⟨row, hrow, hr⟩
        rw [hget] at h
        by_cases ha : r.status.admits status = true
        · simp only [bind, Except.bind, ha, if_true] at h
          cases h
          exact ⟨row, r, hrow, hr, ha, rfl⟩
        · simp only [bind, Except.bind, ha] at h
          cases h
  · intro h
    rcases h with ⟨row, r, hrow, hr, ha, rfl⟩
    rw [get_of_row? hrow hr]
    simp only [bind, Except.bind, ha, if_true]
    rfl

theorem transition_of_refused {now : Time.Instant} {orderId : String} {status : Status}
    {message : Option String} {s : Store} {row : Row} {r : Record}
    (hrow : s.row? orderId = some row) (hr : row.record = .ok r)
    (ha : r.status.admits status = false) :
    s.transition now orderId status message =
      .error (.invalidTransition orderId r.status status) := by
  unfold transition
  rw [get_of_row? hrow hr]
  simp only [bind, Except.bind, ha]
  rfl

theorem eq_modify_of_update {now : Time.Instant} {orderId : String} {status : Status}
    {message : Option String} {s t : Store} {r' : Record}
    (h : s.update now orderId status message = .ok (r', t)) :
    ∃ row r, s.row? orderId = some row ∧ row.record = .ok r ∧ r.status.admits status = true ∧
      t = s.modify orderId (Row.moved now status message)
        (Row.orderId_moved now status message) := by
  unfold update at h
  cases htransition : s.transition now orderId status message with
  | error e =>
      rw [htransition] at h
      cases h
  | ok moved =>
      rw [htransition] at h
      cases hget : moved.get orderId with
      | error e =>
          simp only [bind, Except.bind, hget] at h
          cases h
      | ok r =>
          simp only [bind, Except.bind, hget] at h
          cases h
          exact transition_eq_ok_iff.mp htransition

theorem changes_of_update {now : Time.Instant} {orderId : String} {status : Status}
    {message : Option String} {s t : Store} {r : Record}
    (h : s.update now orderId status message = .ok (r, t)) : Changes now s t := by
  rcases eq_modify_of_update h with ⟨row, old, hrow, hold, ha, rfl⟩
  have hmoved := row?_modify_self (Row.orderId_moved now status message) s orderId
  rw [hrow] at hmoved
  exact Changes.of_row hrow hmoved (Row.Change.moved hold ha message)
    (fun other hne => row?_modify_of_ne _ s hne)

/-- A move that the lifecycle admits takes place, unless its time cannot be written. -/
theorem update_of_admits {now : Time.Instant} (hnow : now.IsDatable) {orderId : String}
    {status : Status} {s : Store} {row : Row} {r : Record}
    (hrow : s.row? orderId = some row) (hr : row.record = .ok r)
    (ha : r.status.admits status = true) (message : Option String) :
    s.update now orderId status message =
      .ok (r.moved now status message,
        s.modify orderId (Row.moved now status message)
          (Row.orderId_moved now status message)) := by
  have htransition : s.transition now orderId status message = .ok _ :=
    transition_eq_ok_iff.mpr ⟨row, r, hrow, hr, ha, rfl⟩
  have hget : (s.modify orderId (Row.moved now status message)
      (Row.orderId_moved now status message)).get orderId =
        .ok (r.moved now status message) := by
    apply get_of_row?
    · rw [row?_modify_self, hrow]
      rfl
    · exact Row.record_moved hnow hr status message
  unfold update
  rw [htransition]
  simp only [bind, Except.bind, hget]
  rfl

theorem update_of_refused {now : Time.Instant} {orderId : String} {status : Status}
    {message : Option String} {s : Store} {row : Row} {r : Record}
    (hrow : s.row? orderId = some row) (hr : row.record = .ok r)
    (ha : r.status.admits status = false) :
    s.update now orderId status message =
      .error (.invalidTransition orderId r.status status) := by
  unfold update
  rw [transition_of_refused hrow hr ha]
  rfl

/-!
# Beginning and ending a dispatch
-/

theorem begin_eq_ok_iff {now : Time.Instant} {d : Draft} {s t : Store} :
    s.begin now d = .ok t ↔ s.append? (Row.ofDraft now d) = some t := by
  unfold begin
  cases h : s.append? (Row.ofDraft now d) with
  | none => simp
  | some next => simp

theorem row?_of_begin {now : Time.Instant} {d : Draft} {s t : Store}
    (h : s.begin now d = .ok t) (orderId : String) :
    t.row? orderId =
      if orderId = d.orderId then some (Row.ofDraft now d) else s.row? orderId :=
  row?_of_append? (begin_eq_ok_iff.mp h) orderId

theorem row?_eq_none_of_begin {now : Time.Instant} {d : Draft} {s t : Store}
    (h : s.begin now d = .ok t) : s.row? d.orderId = none := by
  have hsome := begin_eq_ok_iff.mp h
  by_cases hrow : s.row? d.orderId = none
  · exact hrow
  · rw [append?_eq_none_iff.mpr hrow] at hsome
    cases hsome

theorem exists_begin {s : Store} {d : Draft} (h : s.row? d.orderId = none)
    (now : Time.Instant) : ∃ t, s.begin now d = .ok t := by
  cases happend : s.append? (Row.ofDraft now d) with
  | none => exact absurd h (append?_eq_none_iff.mp happend)
  | some t => exact ⟨t, begin_eq_ok_iff.mpr happend⟩

theorem eq_duplicate_of_begin {now : Time.Instant} {d : Draft} {s : Store} {e : Error}
    (h : s.begin now d = .error e) : e = .duplicate d.orderId := by
  unfold begin at h
  cases happend : s.append? (Row.ofDraft now d) with
  | none =>
      rw [happend] at h
      exact (Except.error.inj h).symm
  | some t =>
      rw [happend] at h
      cases h

theorem row?_land_self (s : Store) (orderId : String) :
    (s.land orderId).row? orderId = (s.row? orderId).map Row.land :=
  row?_modify_self _ s orderId

theorem row?_land_of_ne (s : Store) {orderId other : String} (h : other ≠ orderId) :
    (s.land orderId).row? other = s.row? other :=
  row?_modify_of_ne _ s h

theorem settle_of_admits {now : Time.Instant} (hnow : now.IsDatable) {orderId : String}
    {status : Status} {s : Store} {row : Row} {r : Record}
    (hrow : s.row? orderId = some row) (hr : row.record = .ok r)
    (ha : r.status.admits status = true) (message : Option String) :
    s.settle now orderId status message =
      (.ok (r.moved now status message),
        (s.land orderId).modify orderId (Row.moved now status message)
          (Row.orderId_moved now status message)) := by
  have hland : (s.land orderId).row? orderId = some row.land := by
    rw [row?_land_self, hrow]
    rfl
  have htransition : (s.land orderId).transition now orderId status message = .ok _ :=
    transition_eq_ok_iff.mpr ⟨row.land, r, hland, hr, ha, rfl⟩
  have hget : ((s.land orderId).modify orderId (Row.moved now status message)
      (Row.orderId_moved now status message)).get orderId =
        .ok (r.moved now status message) := by
    apply get_of_row?
    · rw [row?_modify_self, hland]
      rfl
    · exact @Row.record_moved now hnow row.land r hr status message
  simp only [settle, htransition, hget]

/-- An outcome that the lifecycle refuses: only the flag comes down. -/
theorem settle_of_refused {now : Time.Instant} {orderId : String} {status : Status}
    {message : Option String} {s : Store} {row : Row} {r : Record}
    (hrow : s.row? orderId = some row) (hr : row.record = .ok r)
    (ha : r.status.admits status = false) :
    s.settle now orderId status message =
      (.error (.invalidTransition orderId r.status status), s.land orderId) := by
  have hland : (s.land orderId).row? orderId = some row.land := by
    rw [row?_land_self, hrow]
    rfl
  have htransition := @transition_of_refused now orderId status message _ row.land r hland hr ha
  simp only [settle, htransition]

theorem row?_settle_of_ne {orderId other : String} (h : other ≠ orderId) (now : Time.Instant)
    (status : Status) (message : Option String) (s : Store) :
    (s.settle now orderId status message).2.row? other = s.row? other := by
  simp only [settle]
  cases htransition : (s.land orderId).transition now orderId status message with
  | error e => exact row?_land_of_ne s h
  | ok moved =>
      rcases transition_eq_ok_iff.mp htransition with ⟨_, _, _, _, _, rfl⟩
      have hmodify := row?_modify_of_ne (Row.orderId_moved now status message)
        (s.land orderId) h
      exact hmodify.trans (row?_land_of_ne s h)

theorem changes_of_settle {now : Time.Instant} (hnow : now.IsDatable) {orderId : String}
    {status : Status} (hstatus : Status.created.admits status = true) {s : Store} {row : Row}
    (hrow : s.row? orderId = some row) (hsound : row.Sound) (message : Option String) :
    Changes now s (s.settle now orderId status message).2 := by
  rcases hsound with ⟨r, hr, _⟩
  have hland : (s.land orderId).row? orderId = some row.land := by
    rw [row?_land_self, hrow]
    rfl
  cases ha : r.status.admits status with
  | true =>
      have hmoved := row?_modify_self (Row.orderId_moved now status message)
        (s.land orderId) orderId
      rw [hland] at hmoved
      rw [settle_of_admits hnow hrow hr ha message]
      refine Changes.of_row hrow hmoved (Row.Change.settled hr ha message) ?_
      intro other hne
      rw [row?_modify_of_ne _ _ hne, row?_land_of_ne s hne]
  | false =>
      rw [settle_of_refused hrow hr ha]
      refine Changes.of_row hrow hland (Row.Change.landed ?_) (fun other => row?_land_of_ne s)
      cases hstranded : row.isStranded with
      | false => rfl
      | true =>
          have hcreated := ((Row.isStranded_iff hr).mp hstranded).2
          rw [hcreated, hstatus] at ha
          cases ha

theorem row?_discard_of_ne (s : Store) {orderId other : String} (h : other ≠ orderId) :
    (s.discard orderId).row? other = s.row? other := by
  unfold discard
  cases hany : s.rows.any (isUnsent orderId) with
  | false => exact row?_land_of_ne s h
  | true =>
      simp only [if_true]
      rw [row?_filter]
      cases hrow : s.row? other with
      | none => rfl
      | some row => simp [Option.filter, isUnsent, orderId_of_row? hrow, h]

theorem any_isUnsent_iff {s : Store} {orderId : String} :
    s.rows.any (isUnsent orderId) = true ↔
      ∃ row, s.row? orderId = some row ∧ row.isStranded = true := by
  rw [List.any_eq_true]
  constructor
  · intro h
    rcases h with ⟨row, hmem, hunsent⟩
    simp only [isUnsent, Bool.and_eq_true, beq_iff_eq] at hunsent
    exact ⟨row, row?_eq_some_iff.mpr ⟨hmem, hunsent.1⟩, hunsent.2⟩
  · intro h
    rcases h with ⟨row, hrow, hstranded⟩
    refine ⟨row, (row?_eq_some_iff.mp hrow).1, ?_⟩
    simp [isUnsent, orderId_of_row? hrow, hstranded]

theorem row?_discard_self (s : Store) (orderId : String) :
    (s.discard orderId).row? orderId =
      (s.row? orderId).bind (fun row => if row.isStranded then none else some row.land) := by
  unfold discard
  by_cases hany : s.rows.any (isUnsent orderId) = true
  · rcases any_isUnsent_iff.mp hany with ⟨row, hrow, hstranded⟩
    rw [if_pos hany, row?_filter, hrow]
    simp [Option.filter, isUnsent, orderId_of_row? hrow, hstranded]
  · rw [if_neg hany, row?_land_self]
    cases hrow : s.row? orderId with
    | none => rfl
    | some row =>
        have hstranded : row.isStranded = false := by
          rw [← Bool.not_eq_true]
          intro htrue
          exact hany (any_isUnsent_iff.mpr ⟨row, hrow, htrue⟩)
        simp [hstranded]

theorem ne_created_of_discard {s : Store} {orderId : String} {row row' : Row}
    (hrow : s.row? orderId = some row) (hsound : row.Sound)
    (hrow' : (s.discard orderId).row? orderId = some row') :
    ∃ r, row'.record = .ok r ∧ r.status ≠ .created := by
  rcases hsound with ⟨r, hr, hflag⟩
  rw [row?_discard_self, hrow, Option.bind_some] at hrow'
  by_cases hstranded : row.isStranded = true
  · rw [if_pos hstranded] at hrow'
    cases hrow'
  · rw [if_neg hstranded] at hrow'
    cases hrow'
    refine ⟨r, hr, ?_⟩
    intro hcreated
    exact hstranded ((Row.isStranded_iff hr).mpr ⟨hflag hcreated, hcreated⟩)

/-!
# Recovery
-/

/-- The orders whose dispatch was cut off, in the order of their rows. -/
def stranded (s : Store) : List String :=
  (s.rows.filter Row.isStranded).map (fun r => r.orderId)

theorem mem_stranded_iff {s : Store} {orderId : String} :
    orderId ∈ s.stranded ↔ ∃ row, s.row? orderId = some row ∧ row.isStranded = true := by
  unfold stranded
  rw [List.mem_map]
  constructor
  · intro h
    rcases h with ⟨row, hmem, hid⟩
    rw [List.mem_filter] at hmem
    exact ⟨row, row?_eq_some_iff.mpr ⟨hmem.1, hid⟩, hmem.2⟩
  · intro h
    rcases h with ⟨row, hrow, hstranded⟩
    refine ⟨row, ?_, orderId_of_row? hrow⟩
    rw [List.mem_filter]
    exact ⟨(row?_eq_some_iff.mp hrow).1, hstranded⟩

theorem nodup_stranded (s : Store) : s.stranded.Nodup :=
  s.nodup.sublist (List.filter_sublist.map _)

def failEach (now : Time.Instant) (orderIds : List String) (start : List Record × Store) :
    Except Error (List Record × Store) :=
  orderIds.foldlM
    (fun (records, s) orderId => do
      let (record, s) ← s.update now orderId .failed (some interruptedDispatch)
      return (records ++ [record], s))
    start

theorem failEach_cons (now : Time.Instant) (orderId : String) (orderIds : List String)
    (records : List Record) (s : Store) :
    failEach now (orderId :: orderIds) (records, s) =
      (s.update now orderId .failed (some interruptedDispatch)).bind
        (fun (record, t) => failEach now orderIds (records ++ [record], t)) := by
  unfold failEach
  rw [List.foldlM_cons]
  cases hupdate : s.update now orderId .failed (some interruptedDispatch) with
  | error e =>
      simp only [hupdate]
      rfl
  | ok moved =>
      simp only [hupdate]
      rfl

theorem recover_eq (now : Time.Instant) (s : Store) :
    s.recover now =
      (failEach now s.stranded ([], s)).map
        (fun (records, t) => (records, t.map Row.land Row.orderId_land)) := by
  have hbind : ∀ e : Except Error (List Record × Store),
      (do
        let (records, t) ← e
        return (records, t.map Row.land Row.orderId_land)) =
      e.map (fun (records, t) => (records, t.map Row.land Row.orderId_land)) := by
    intro e
    cases e <;> rfl
  exact hbind _

theorem row?_of_failEach {now : Time.Instant} {orderIds : List String}
    (hnodup : orderIds.Nodup) {records records' : List Record} {s t : Store}
    (h : failEach now orderIds (records, s) = .ok (records', t)) (orderId : String) :
    (orderId ∉ orderIds → t.row? orderId = s.row? orderId) ∧
    (orderId ∈ orderIds → ∃ row r, s.row? orderId = some row ∧ row.record = .ok r ∧
      r.status.admits .failed = true ∧
      t.row? orderId = some (row.moved now .failed (some interruptedDispatch))) := by
  induction orderIds generalizing records s with
  | nil =>
      cases h
      constructor
      · intro _
        rfl
      · intro hmem
        cases hmem
  | cons first rest ih =>
      rw [failEach_cons] at h
      rcases List.nodup_cons.mp hnodup with ⟨hfirst, hrest⟩
      cases hupdate : s.update now first .failed (some interruptedDispatch) with
      | error e =>
          rw [hupdate] at h
          cases h
      | ok moved =>
          rcases moved with ⟨record, next⟩
          rw [hupdate] at h
          have hih := ih hrest h
          rcases eq_modify_of_update hupdate with ⟨row, r, hrow, hr, ha, rfl⟩
          constructor
          · intro hnot
            rw [List.mem_cons, not_or] at hnot
            rw [hih.1 hnot.2, row?_modify_of_ne _ s hnot.1]
          · intro hmem
            by_cases hid : orderId = first
            · subst hid
              refine ⟨row, r, hrow, hr, ha, ?_⟩
              rw [hih.1 hfirst, row?_modify_self, hrow]
              rfl
            · have hin : orderId ∈ rest := by
                rcases List.mem_cons.mp hmem with heq | hin
                · exact absurd heq hid
                · exact hin
              rcases hih.2 hin with ⟨other, old, hother, hold, hadmits, hmoved⟩
              rw [row?_modify_of_ne _ s hid] at hother
              exact ⟨other, old, hother, hold, hadmits, hmoved⟩

theorem changes_of_recover {now : Time.Instant} {s t : Store} {records : List Record}
    (h : s.recover now = .ok (records, t)) : Changes now s t := by
  rw [recover_eq] at h
  cases hfail : failEach now s.stranded ([], s) with
  | error e =>
      rw [hfail] at h
      cases h
  | ok failed =>
      rcases failed with ⟨records', next⟩
      rw [hfail] at h
      cases h
      have hrows := row?_of_failEach s.nodup_stranded hfail
      constructor
      · intro orderId row hrow
        rw [row?_map]
        by_cases hmem : orderId ∈ s.stranded
        · rcases (hrows orderId).2 hmem with ⟨old, r, hold, hr, ha, hmoved⟩
          rw [hrow] at hold
          cases hold
          rw [hmoved]
          exact ⟨_, rfl, Row.Change.settled hr ha _⟩
        · rw [(hrows orderId).1 hmem, hrow]
          refine ⟨_, rfl, Row.Change.landed ?_⟩
          cases hstranded : row.isStranded with
          | false => rfl
          | true => exact absurd (mem_stranded_iff.mpr ⟨row, hrow, hstranded⟩) hmem
      · intro orderId hnone
        rw [row?_map]
        by_cases hmem : orderId ∈ s.stranded
        · rcases mem_stranded_iff.mp hmem with ⟨row, hrow, _⟩
          rw [hnone] at hrow
          cases hrow
        · rw [(hrows orderId).1 hmem, hnone]
          rfl

end Store
end Record
end FleetBridge
