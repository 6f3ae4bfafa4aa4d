import FleetBridge.Proofs.Record.Ledger
import FleetBridge.Proofs.Record.Recovery
import Mathlib.Data.List.Induction

/-!
# Runs cut off by a crash

A run on a file that this version has not written to may be cut off anywhere.  What it
has begun is known from the operations alone, and a row is sound if its order was begun
and has its flag down if not.  That is all recovery needs.
-/

namespace FleetBridge
namespace Record
namespace Ledger

def opened (f : File) : Ledger :=
  { store := f.opened, units := [] }

/-- What a crash leaves: units of work vanish with their process. -/
def crash (l : Ledger) : File :=
  .flagged l.store

def Begun (l : Ledger) (ops : List Entry) (orderId : String) : Prop :=
  ∃ before now d after, ops = before ++ (now, .begin d) :: after ∧ d.orderId = orderId ∧
    ∃ t, (l.run before).store.begin now.instant d = .ok t

theorem Begun.append {l : Ledger} {ops : List Entry} {orderId : String}
    (h : Begun l ops orderId) (more : List Entry) : Begun l (ops ++ more) orderId := by
  rcases h with ⟨before, now, d, after, rfl, hid, hbegin⟩
  exact ⟨before, now, d, after ++ more, by simp, hid, hbegin⟩

theorem begun_append_singleton_iff {l : Ledger} {ops : List Entry} {now : Time.Moment}
    {op : Op} {orderId : String} :
    Begun l (ops ++ [(now, op)]) orderId ↔
      Begun l ops orderId ∨ ∃ d t, op = .begin d ∧ d.orderId = orderId ∧
        (l.run ops).store.begin now.instant d = .ok t := by
  constructor
  · intro h
    rcases h with ⟨before, now', d, after, hsplit, hid, t, hbegin⟩
    rcases List.eq_nil_or_concat after with rfl | ⟨after, last, rfl⟩
    · rcases List.append_inj' hsplit rfl with ⟨rfl, hlast⟩
      cases hlast
      exact Or.inr ⟨d, t, rfl, hid, hbegin⟩
    · rw [List.concat_eq_append, ← List.cons_append, ← List.append_assoc] at hsplit
      rcases List.append_inj' hsplit rfl with ⟨rfl, _⟩
      exact Or.inl ⟨before, now', d, after, rfl, hid, t, hbegin⟩
  · intro h
    rcases h with h | ⟨d, t, rfl, hid, hbegin⟩
    · exact h.append _
    · exact ⟨ops, now, d, [], rfl, hid, t, hbegin⟩

/-- What holds in the course of a run: begun orders have sound rows, no other row has its
flag up, and a row that was there before the run stays and was not begun. -/
structure Traced (l : Ledger) (ops : List Entry) : Prop where
  rows : (l.run ops).store.Attributed (Begun l ops)
  older : ∀ {orderId row}, l.store.row? orderId = some row →
    ¬ Begun l ops orderId ∧ ∃ row', (l.run ops).store.row? orderId = some row'

theorem Traced.nil {l : Ledger}
    (h : ∀ {orderId row}, l.store.row? orderId = some row → row.inFlight = false) :
    Traced l [] := by
  have hnone : ∀ orderId, ¬ Begun l [] orderId := by
    intro orderId hbegun
    rcases hbegun with ⟨before, _, _, _, hsplit, _⟩
    cases before <;> cases hsplit
  exact
    { rows :=
        { own := fun _ hbegun => absurd hbegun (hnone _)
          foreign := fun hrow _ => h hrow }
      older := fun hrow => ⟨hnone _, _, hrow⟩ }

theorem Traced.concat {l : Ledger} {ops : List Entry} (h : Traced l ops)
    (hl : (l.run ops).Sound) {now : Time.Moment} (hnow : now.IsDatable) (op : Op) :
    Traced l (ops ++ [(now, op)]) := by
  have hinstant := Time.Moment.isDatable_instant hnow
  have hrun : l.run (ops ++ [(now, op)]) = (l.run ops).step now op := run_append ops _ l
  -- An order whose row is there already is not begun again.
  have hbegun : ∀ {orderId row}, (l.run ops).store.row? orderId = some row →
      (Begun l (ops ++ [(now, op)]) orderId ↔ Begun l ops orderId) := by
    intro orderId row hrow
    rw [begun_append_singleton_iff]
    constructor
    · intro hor
      rcases hor with hold | ⟨d, t, _, rfl, hbegin⟩
      · exact hold
      · rw [Store.row?_eq_none_of_begin hbegin] at hrow
        cases hrow
    · exact Or.inl
  have hrow : ∀ {orderId row'}, (l.run (ops ++ [(now, op)])).store.row? orderId = some row' →
      (Begun l (ops ++ [(now, op)]) orderId → row'.Sound) ∧
      (¬ Begun l (ops ++ [(now, op)]) orderId → row'.inFlight = false) := by
    intro orderId row' hrow'
    have htransit := transit hl hnow op orderId
    rw [← hrun, hrow'] at htransit
    generalize hold : (l.run ops).store.row? orderId = old at htransit
    cases htransit with
    | @begun d hop hid =>
        refine ⟨fun _ => Row.sound_ofDraft hinstant d, ?_⟩
        intro hnot
        -- Nothing stood in the way of the order, so it was begun just now.
        rw [← hid] at hold
        rcases Store.exists_begin hold now.instant with ⟨t, hbegin⟩
        exact absurd (begun_append_singleton_iff.mpr (Or.inr ⟨d, t, hop, hid, hbegin⟩)) hnot
    | changed hchange =>
        rw [hbegun hold]
        exact ⟨fun hb => (h.rows.own hold hb).change hinstant hchange,
          fun hb => hchange.inFlight (h.rows.foreign hold hb)⟩
  refine { rows := ⟨fun hr hb => (hrow hr).1 hb, fun hr hb => (hrow hr).2 hb⟩, older := ?_ }
  intro orderId row hfirst
  rcases h.older hfirst with ⟨hnot, row', hrow'⟩
  refine ⟨fun hb => hnot ((hbegun hrow').mp hb), ?_⟩
  have htransit := transit hl hnow op orderId
  rw [hrow'] at htransit
  rw [hrun]
  generalize ((l.run ops).step now op).store.row? orderId = after at htransit ⊢
  cases htransit with
  | changed => exact ⟨_, rfl⟩
  | discarded hop hunit hstranded =>
      rw [Row.isStranded, h.rows.foreign hrow' hnot] at hstranded
      cases hstranded

theorem traced_run {l : Ledger} (hl : l.Sound)
    (h : ∀ {orderId row}, l.store.row? orderId = some row → row.inFlight = false)
    {ops : List Entry} (hops : Time.AllDatable ops) : Traced l ops := by
  induction ops using List.reverseRecOn with
  | nil => exact Traced.nil h
  | append_singleton ops e ih =>
      exact (ih hops.left).concat (hl.run hops.left) hops.right.cons.1 e.2

/-- Whatever was done to a file and wherever the run was cut off, recovery fails what this
version has begun and not sent, and nothing else; records from before the run are not even
looked at. -/
theorem recovers_of_crash {f : File} (hf : f.IsUntouched) {ops : List Entry}
    (hops : Time.AllDatable ops) {now : Time.Moment} (hnow : now.IsDatable) :
    ∃ records recovered,
      ((opened f).run ops).crash.opened.recover now.instant = .ok (records, recovered) ∧
      Store.Recovers now.instant (Begun (opened f) ops) ((opened f).run ops).store records
        recovered ∧
      (∀ n orderId, (File.upgraded^[n] f).opened.get orderId = f.get orderId) ∧
      ∀ orderId, f.get orderId ≠ .error (.notFound orderId) →
        orderId ∉ records.map Record.orderId ∧
        recovered.get orderId = ((opened f).run ops).store.get orderId := by
  have htraced : Traced (opened f) ops := traced_run (Sound.of_no_units f.opened) hf.inFlight hops
  rcases htraced.rows.exists_recovers (Time.Moment.isDatable_instant hnow) with
    ⟨records, recovered, hrecover, hrecovers⟩
  refine ⟨records, recovered, hrecover, hrecovers, ?_, ?_⟩
  · intro n orderId
    rw [File.opened_iterate_upgraded, File.get_opened]
  · intro orderId hget
    have hnot : orderId ∉ records.map Record.orderId := by
      intro hmem
      rcases List.mem_map.mp hmem with ⟨r', hr', rfl⟩
      rcases (hrecovers.returned r').mp hr' with ⟨r, _, hbegun, _, rfl⟩
      have hrow : f.opened.row? r.orderId ≠ none := by
        intro hnone
        rw [← File.get_opened] at hget
        exact hget (Store.get_eq_notFound_iff.mpr hnone)
      rcases Option.ne_none_iff_exists'.mp hrow with ⟨row, hrow⟩
      exact (htraced.older hrow).1 hbegun
    exact ⟨hnot, hrecovers.others orderId hnot⟩

/-- A file of an older version with an order whose dispatch it never finished. -/
def leftOver : File :=
  .unflagged
    [ { orderId := "order-0"
        templateId := none
        device := "agv-01"
        revision := 0
        status := "CREATED"
        errorMessage := none
        createdAt := "1970-01-01T00:00:00.000000Z"
        startedAt := none
        completedAt := none } ]

/-- Two orders are begun, and only the second one is sent before the crash. -/
def cutOff : List Entry :=
  [ ({ wall := 0, elapsed := 0 },
      .begin { orderId := "order-1", templateId := none, device := "agv-01", revision := 0 }),
    ({ wall := 250000000, elapsed := 250000000 },
      .begin { orderId := "order-2", templateId := none, device := "agv-02", revision := 0 }),
    ({ wall := 500000000, elapsed := 500000000 }, .commitSent "order-2") ]

theorem recovers_of_crash_cutOff :
    ∃ records recovered,
      ((opened leftOver).run cutOff).crash.opened.recover (Time.Instant.ofNanos 1000000000) =
        .ok (records, recovered) ∧
      records.map Record.orderId = ["order-1"] ∧
      Store.Recovers (Time.Instant.ofNanos 1000000000) (Begun (opened leftOver) cutOff)
        ((opened leftOver).run cutOff).store records recovered ∧
      recovered.get "order-0" = leftOver.get "order-0" := by
  have hops : Time.AllDatable cutOff := by decide +kernel
  have hnow : Time.Moment.IsDatable { wall := 1000000000, elapsed := 1000000000 } := by
    decide +kernel
  have hids : (((opened leftOver).run cutOff).crash.opened.recover
      (Time.Instant.ofNanos 1000000000)).map (fun recovery => recovery.1.map Record.orderId) =
        .ok ["order-1"] := by decide +kernel
  have hold : (leftOver.get "order-0").map Record.status = .ok .created := by decide +kernel
  have hkept : ((opened leftOver).run cutOff).store.get "order-0" = leftOver.get "order-0" := by
    decide +kernel
  have hfound : leftOver.get "order-0" ≠ .error (.notFound "order-0") := by
    intro hmissing
    rw [hmissing] at hold
    cases hold
  rcases recovers_of_crash (File.IsUntouched.older _) hops hnow with
    ⟨records, recovered, hrecover, hrecovers, _, holder⟩
  refine ⟨records, recovered, hrecover, ?_, hrecovers, ?_⟩
  · have hrecover' : ((opened leftOver).run cutOff).crash.opened.recover
        (Time.Instant.ofNanos 1000000000) = .ok (records, recovered) := hrecover
    rw [hrecover'] at hids
    exact Except.ok.inj hids
  · exact (holder "order-0" hfound).2.trans hkept

end Ledger
end Record
end FleetBridge
