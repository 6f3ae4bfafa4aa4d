import FleetBridge.Proofs.Record.Change
import FleetBridge.Record.File

/-!
# Recovery after a crash

A crash leaves the file and nothing else: whoever held a unit of work is gone without
having ended it.  Recovery then fails exactly the records that were begun and are still
new.  What an older version has put into the file was never begun here, its flag was
never up, and recovery passes it by.
-/

namespace FleetBridge
namespace Record

def interrupted (now : Time.Instant) (r : Record) : Record :=
  { r with
    status := .failed
    errorMessage := some interruptedDispatch
    completedAt := some now.cut }

theorem moved_interruptedDispatch (now : Time.Instant) (r : Record) :
    r.moved now .failed (some interruptedDispatch) = r.interrupted now := by
  have hmessage : Columns.messageFor .failed (some interruptedDispatch) =
      some interruptedDispatch := by decide
  simp [moved, interrupted, hmessage, Status.isFinal]

/-!
# Files
-/

namespace Store

theorem row?_ofRows (rows : List Row) (orderId : String) :
    (ofRows rows).row? orderId = rows.find? (fun r => r.orderId == orderId) := by
  have hfold : ∀ s : Store,
      (rows.foldl (fun s r => (s.append? r).getD s) s).row? orderId =
        (s.row? orderId).or (rows.find? (fun r => r.orderId == orderId)) := by
    induction rows with
    | nil => simp
    | cons row rows ih =>
        intro s
        rw [List.foldl_cons, ih, List.find?_cons]
        cases happend : s.append? row with
        | none =>
            -- The order id is taken, so the row is passed over.
            have htaken := append?_eq_none_iff.mp happend
            cases hid : row.orderId == orderId with
            | false => rfl
            | true =>
                rw [beq_iff_eq.mp hid] at htaken
                rcases Option.ne_none_iff_exists'.mp htaken with ⟨old, hold⟩
                simp [hold]
        | some next =>
            have hfree : s.row? row.orderId = none := by
              by_contra hne
              rw [append?_eq_none_iff.mpr hne] at happend
              cases happend
            rw [Option.getD_some, row?_of_append? happend]
            cases hid : row.orderId == orderId with
            | false =>
                have hne : orderId ≠ row.orderId := fun h => by simp [h] at hid
                rw [if_neg hne]
            | true =>
                rw [← beq_iff_eq.mp hid, if_pos rfl, hfree]
                rfl
  exact (hfold .empty).trans rfl

theorem orderId_of_get {s : Store} {orderId : String} {r : Record}
    (h : s.get orderId = .ok r) : r.orderId = orderId := by
  rcases get_eq_ok_iff.mp h with ⟨row, hrow, hr⟩
  rcases Columns.record_eq_ok_iff.mp hr with ⟨_, _, _, _, _, _, _, _, rfl⟩
  exact orderId_of_row? hrow

end Store

namespace File

def get (orderId : String) : File → Except Store.Error Record
  | unflagged rows =>
      match rows.find? (fun c => c.orderId == orderId) with
      | none => .error (.notFound orderId)
      | some c => Store.read { c with inFlight := false }
  | flagged s => s.get orderId

theorem row?_opened_unflagged (rows : List Columns) (orderId : String) :
    (unflagged rows).opened.row? orderId =
      (rows.find? (fun c => c.orderId == orderId)).map
        (fun c => { c with inFlight := false }) := by
  simp only [opened]
  rw [Store.row?_ofRows, List.find?_map]
  rfl

theorem get_opened (f : File) (orderId : String) : f.opened.get orderId = f.get orderId := by
  cases f with
  | flagged s => rfl
  | unflagged rows =>
      simp only [Store.get, get]
      rw [row?_opened_unflagged]
      cases rows.find? (fun c => c.orderId == orderId) <;> rfl

theorem opened_iterate_upgraded (n : Nat) (f : File) : (upgraded^[n] f).opened = f.opened := by
  induction n generalizing f with
  | zero => rfl
  | succ n ih => exact (ih f.upgraded).trans (opened_upgraded f)

/-- A file that this version has not written to. -/
inductive IsUntouched : File → Prop where
  | fresh : IsUntouched (flagged .empty)
  | older (rows : List Columns) : IsUntouched (unflagged rows)

theorem IsUntouched.inFlight {f : File} (h : f.IsUntouched) {orderId : String} {row : Row}
    (hrow : f.opened.row? orderId = some row) : row.inFlight = false := by
  cases h with
  | fresh => cases hrow
  | older rows =>
      rw [row?_opened_unflagged] at hrow
      rcases Option.map_eq_some_iff.mp hrow with ⟨c, _, rfl⟩
      rfl

end File

/-!
# Failing what was cut off
-/

theorem Row.land_of_landed {row : Row} (h : row.inFlight = false) : row.land = row := by
  cases row
  cases h
  rfl

theorem Row.Change.inFlight {now : Time.Instant} {row row' : Row} (h : row.Change now row')
    (hflag : row.inFlight = false) : row'.inFlight = false := by
  cases h with
  | kept => exact hflag
  | landed => rfl
  | moved => exact hflag
  | settled => rfl

namespace Store

theorem ext_rows {s t : Store} (h : s.rows = t.rows) : s = t := by
  cases s
  cases t
  cases h
  rfl

theorem exists_failEach {now : Time.Instant} (hnow : now.IsDatable) {orderIds : List String}
    (hnodup : orderIds.Nodup) {s : Store}
    (h : ∀ orderId ∈ orderIds, ∃ row r, s.row? orderId = some row ∧ row.record = .ok r ∧
      r.status = .created) (records : List Record) :
    ∃ failed t, failEach now orderIds (records, s) = .ok (records ++ failed, t) ∧
      failed.map Record.orderId = orderIds ∧
      ∀ r' ∈ failed, ∃ r, s.get r'.orderId = .ok r ∧ r' = r.interrupted now := by
  induction orderIds generalizing s records with
  | nil =>
      refine ⟨[], s, ?_, rfl, ?_⟩
      · rw [List.append_nil]
        rfl
      · intro r' hmem
        cases hmem
  | cons first rest ih =>
      rcases List.nodup_cons.mp hnodup with ⟨hfirst, hrest⟩
      rcases List.forall_mem_cons.mp h with ⟨⟨row, r, hrow, hr, hcreated⟩, hothers⟩
      have hget := get_of_row? hrow hr
      have ha : r.status.admits .failed = true := by
        rw [hcreated]
        rfl
      have hupdate := update_of_admits hnow hrow hr ha (some interruptedDispatch)
      rw [moved_interruptedDispatch] at hupdate
      -- The order ids differ, so the rows of the others are as they were.
      have hsame : ∀ orderId ∈ rest,
          (s.modify first (Row.moved now .failed (some interruptedDispatch))
            (Row.orderId_moved now .failed (some interruptedDispatch))).row? orderId =
              s.row? orderId := by
        intro orderId hmem
        apply row?_modify_of_ne
        intro heq
        exact hfirst (heq ▸ hmem)
      have hleft : ∀ orderId ∈ rest, ∃ row r,
          (s.modify first (Row.moved now .failed (some interruptedDispatch))
            (Row.orderId_moved now .failed (some interruptedDispatch))).row? orderId =
              some row ∧ row.record = .ok r ∧ r.status = .created := by
        intro orderId hmem
        rw [hsame orderId hmem]
        exact hothers orderId hmem
      rcases ih hrest hleft (records ++ [r.interrupted now]) with
        ⟨failed, t, hfailed, hids, hrecords⟩
      refine ⟨r.interrupted now :: failed, t, ?_, ?_, ?_⟩
      · rw [failEach_cons, hupdate]
        simp only [Except.bind]
        rw [hfailed, List.append_assoc, List.singleton_append]
      · show r.orderId :: failed.map Record.orderId = first :: rest
        rw [orderId_of_get hget, hids]
      · intro r' hmem
        rcases List.mem_cons.mp hmem with rfl | hmem
        · refine ⟨r, ?_, rfl⟩
          show s.get r.orderId = .ok r
          rw [orderId_of_get hget, hget]
        · rcases hrecords r' hmem with ⟨old, hold, hr'⟩
          have hin : r'.orderId ∈ rest := hids ▸ List.mem_map_of_mem hmem
          rw [get, hsame _ hin] at hold
          exact ⟨old, hold, hr'⟩

theorem get_map_land (s : Store) (orderId : String) :
    (s.map Row.land Row.orderId_land).get orderId = s.get orderId := by
  unfold get
  rw [row?_map]
  cases s.row? orderId <;> rfl

/-- Recovery fails the records that are stranded, if all of them can be read, and no other;
all flags come down. -/
theorem exists_recover {now : Time.Instant} (hnow : now.IsDatable) {s : Store}
    (h : ∀ orderId ∈ s.stranded, ∃ row r, s.row? orderId = some row ∧ row.record = .ok r ∧
      r.status = .created) :
    ∃ failed t, s.recover now = .ok (failed, t) ∧ failed.map Record.orderId = s.stranded ∧
      (∀ r' ∈ failed, t.get r'.orderId = .ok r' ∧
        ∃ r, s.get r'.orderId = .ok r ∧ r' = r.interrupted now) ∧
      (∀ orderId, orderId ∉ s.stranded → t.get orderId = s.get orderId) ∧
      ∀ row ∈ t.rows, row.inFlight = false := by
  rcases exists_failEach hnow s.nodup_stranded h [] with ⟨failed, t, hfail, hids, hfailed⟩
  have hrows := row?_of_failEach s.nodup_stranded hfail
  refine ⟨failed, t.map Row.land Row.orderId_land, ?_, hids, ?_, ?_, ?_⟩
  · rw [recover_eq, hfail]
    rfl
  · intro r' hmem
    rcases hfailed r' hmem with ⟨r, hget, hr'⟩
    have hin : r'.orderId ∈ s.stranded := hids ▸ List.mem_map_of_mem hmem
    rcases (hrows r'.orderId).2 hin with ⟨row, old, hrow, hold, _, hafter⟩
    rw [get_of_row? hrow hold] at hget
    cases hget
    refine ⟨?_, r, get_of_row? hrow hold, hr'⟩
    rw [get_map_land, get_of_row? hafter (Row.record_moved hnow hold _ _),
      moved_interruptedDispatch, ← hr']
  · intro orderId hnot
    rw [get_map_land, get, (hrows orderId).1 hnot]
    rfl
  · intro row hmem
    rcases List.mem_map.mp hmem with ⟨old, _, rfl⟩
    rfl

theorem recover_of_landed {s : Store} (h : ∀ row ∈ s.rows, row.inFlight = false)
    (now : Time.Instant) : s.recover now = .ok ([], s) := by
  have hstranded : s.stranded = [] := by
    have hfilter : s.rows.filter Row.isStranded = [] := by
      rw [List.filter_eq_nil_iff]
      intro row hmem
      simp [Row.isStranded, h row hmem]
    rw [stranded, hfilter]
    rfl
  have hland : s.map Row.land Row.orderId_land = s := by
    apply ext_rows
    show s.rows.map Row.land = s.rows
    calc s.rows.map Row.land = s.rows.map id :=
          List.map_congr_left (fun row hmem => Row.land_of_landed (h row hmem))
      _ = s.rows := List.map_id s.rows
  rw [recover_eq, hstranded]
  show Except.ok ([], s.map Row.land Row.orderId_land) = _
  rw [hland]

/-- Every order that this version has begun has a sound row, and no other row has its
flag up. -/
structure Attributed (begun : String → Prop) (s : Store) : Prop where
  own : ∀ {orderId row}, s.row? orderId = some row → begun orderId → row.Sound
  foreign : ∀ {orderId row}, s.row? orderId = some row → ¬ begun orderId → row.inFlight = false

theorem Attributed.mem_stranded_iff {begun : String → Prop} {s : Store}
    (h : s.Attributed begun) {orderId : String} :
    orderId ∈ s.stranded ↔ begun orderId ∧
      ∃ row r, s.row? orderId = some row ∧ row.record = .ok r ∧ r.status = .created := by
  rw [Store.mem_stranded_iff]
  constructor
  · intro hin
    rcases hin with ⟨row, hrow, hstranded⟩
    have hflag : row.inFlight = true := (Bool.and_eq_true_iff.mp hstranded).1
    by_cases hb : begun orderId
    · rcases h.own hrow hb with ⟨r, hr, _⟩
      exact ⟨hb, row, r, hrow, hr, ((Row.isStranded_iff hr).mp hstranded).2⟩
    · rw [h.foreign hrow hb] at hflag
      cases hflag
  · intro hin
    rcases hin with ⟨hb, row, r, hrow, hr, hcreated⟩
    rcases h.own hrow hb with ⟨old, hold, hflag⟩
    rw [hr] at hold
    cases hold
    exact ⟨row, hrow, (Row.isStranded_iff hr).mpr ⟨hflag hcreated, hcreated⟩⟩

/-- What recovery makes of a store, `begun` being the orders that this version has begun:
the records it returns are those that were new, every other record reads as before, and
a second recovery finds nothing to do. -/
structure Recovers (now : Time.Instant) (begun : String → Prop) (before : Store)
    (records : List Record) (after : Store) : Prop where
  once : (records.map Record.orderId).Nodup
  returned : ∀ r', r' ∈ records ↔ ∃ r, before.get r.orderId = .ok r ∧ begun r.orderId ∧
    r.status = .created ∧ r' = r.interrupted now
  failed : ∀ r' ∈ records, after.get r'.orderId = .ok r'
  others : ∀ orderId, orderId ∉ records.map Record.orderId →
    after.get orderId = before.get orderId
  decided : ∀ {orderId r}, begun orderId → after.get orderId = .ok r → r.status ≠ .created
  landed : ∀ row ∈ after.rows, row.inFlight = false
  again : ∀ later, after.recover later = .ok ([], after)

theorem Attributed.exists_recovers {now : Time.Instant} (hnow : now.IsDatable)
    {begun : String → Prop} {s : Store} (h : s.Attributed begun) :
    ∃ records t, s.recover now = .ok (records, t) ∧ Recovers now begun s records t := by
  rcases exists_recover hnow (fun _ hin => (h.mem_stranded_iff.mp hin).2) with
    ⟨records, t, hrecover, hids, hfailed, hothers, hlanded⟩
  have hin : ∀ {r'}, r' ∈ records → r'.orderId ∈ s.stranded := by
    intro r' hmem
    rw [← hids]
    exact List.mem_map_of_mem hmem
  refine ⟨records, t, hrecover, ?_, ?_, ?_, ?_, ?_, hlanded, recover_of_landed hlanded⟩
  · rw [hids]
    exact s.nodup_stranded
  · intro r'
    constructor
    · intro hmem
      rcases hfailed r' hmem with ⟨_, r, hget, hr'⟩
      rcases h.mem_stranded_iff.mp (hin hmem) with ⟨hb, row, old, hrow, hold, hcreated⟩
      rw [get_of_row? hrow hold] at hget
      cases hget
      have hread := get_of_row? hrow hold
      have hid := orderId_of_get hread
      rw [← hid] at hb hread
      exact ⟨r, hread, hb, hcreated, hr'⟩
    · intro hr'
      rcases hr' with ⟨r, hget, hb, hcreated, rfl⟩
      rcases get_eq_ok_iff.mp hget with ⟨row, hrow, hr⟩
      have hstranded := h.mem_stranded_iff.mpr ⟨hb, row, r, hrow, hr, hcreated⟩
      rw [← hids] at hstranded
      rcases List.mem_map.mp hstranded with ⟨r', hmem, hid⟩
      rcases hfailed r' hmem with ⟨_, old, hold, hr'⟩
      rw [hid, hget] at hold
      cases hold
      rw [← hr']
      exact hmem
  · intro r' hmem
    exact (hfailed r' hmem).1
  · intro orderId hnot
    rw [hids] at hnot
    exact hothers orderId hnot
  · intro orderId r hb hget hcreated
    by_cases hstranded : orderId ∈ s.stranded
    · rw [← hids] at hstranded
      rcases List.mem_map.mp hstranded with ⟨r', hmem, rfl⟩
      rcases hfailed r' hmem with ⟨hafter, old, _, hr'⟩
      rw [hafter] at hget
      cases hget
      rw [hr'] at hcreated
      cases hcreated
    · rw [hothers orderId hstranded] at hget
      rcases get_eq_ok_iff.mp hget with ⟨row, hrow, hr⟩
      exact hstranded (h.mem_stranded_iff.mpr ⟨hb, row, r, hrow, hr, hcreated⟩)

end Store

end Record
end FleetBridge
