import FleetBridge.Proofs.Record.WellFormed
import Mathlib.Data.List.Induction

/-!
# The history of a record

What a reader of the store sees of one order from one operation to the next: the
record is begun, moves along the lifecycle, and vanishes only while it is new and
with its own unit of work.  What has ended stays as it is, and what is there was begun
in the run and has been there since.
-/

namespace FleetBridge
namespace Record

/-- A record that still says what its draft said. -/
structure IsOf (now : Time.Instant) (d : Draft) (r : Record) : Prop where
  orderId : r.orderId = d.orderId
  templateId : r.templateId = d.templateId
  device : r.device = d.device
  revision : r.revision = d.revision
  createdAt : r.createdAt = now.cut

theorem isOf_ofDraft (now : Time.Instant) (d : Draft) : (ofDraft now d).IsOf now d :=
  ⟨rfl, rfl, rfl, rfl, rfl⟩

theorem IsOf.moved {begun : Time.Instant} {d : Draft} {r : Record} (h : r.IsOf begun d)
    (now : Time.Instant) (status : Status) (message : Option String) :
    (r.moved now status message).IsOf begun d :=
  ⟨h.orderId, h.templateId, h.device, h.revision, h.createdAt⟩

namespace Ledger

/-- What a reader can see of an order before and after an operation. -/
inductive Passage (now : Time.Instant) (units : List String) (op : Op) (orderId : String) :
    Except Store.Error Record → Except Store.Error Record → Prop where
  | absent : Passage now units op orderId (.error (.notFound orderId))
      (.error (.notFound orderId))
  | begun {d : Draft} (hop : op = .begin d) (hid : d.orderId = orderId)
      (hunit : orderId ∉ units) :
      Passage now units op orderId (.error (.notFound orderId)) (.ok (Record.ofDraft now d))
  | kept (r : Record) : Passage now units op orderId (.ok r) (.ok r)
  | moved {r : Record} {status : Status} (h : r.status.Edge status)
      (message : Option String) :
      Passage now units op orderId (.ok r) (.ok (r.moved now status message))
  | discarded {r : Record} (hop : op = .discard orderId ∨ op = .drop orderId)
      (hunit : orderId ∈ units) (hcreated : r.status = .created) :
      Passage now units op orderId (.ok r) (.error (.notFound orderId))

theorem passage {l : Ledger} (hl : l.Sound)
    (hrows : ∀ {orderId row}, l.store.row? orderId = some row → row.IsWellFormed)
    {now : Time.Moment} (hnow : now.IsDatable) (op : Op) (orderId : String) :
    Passage now.instant l.units op orderId (l.store.get orderId)
      ((l.step now op).store.get orderId) := by
  have hinstant := Time.Moment.isDatable_instant hnow
  have htransit := transit hl hnow op orderId
  generalize hbefore : l.store.row? orderId = before at htransit
  generalize hafter : (l.step now op).store.row? orderId = after at htransit
  cases htransit with
  | absent =>
      rw [Store.get_eq_notFound_iff.mpr hbefore, Store.get_eq_notFound_iff.mpr hafter]
      exact Passage.absent
  | @begun d hop hid =>
      rw [Store.get_eq_notFound_iff.mpr hbefore,
        Store.get_of_row? hafter (Row.record_ofDraft hinstant d)]
      refine Passage.begun hop hid ?_
      intro hmem
      rcases hl.row hmem with ⟨row, hrow, _⟩
      rw [hbefore] at hrow
      cases hrow
  | changed hchange =>
      rcases hrows hbefore with ⟨r, hr, _⟩
      rw [Store.get_of_row? hbefore hr]
      rcases hchange.record hinstant hr with hsame | ⟨status, message, ha, hmoved⟩
      · rw [Store.get_of_row? hafter hsame]
        exact Passage.kept r
      · rw [Store.get_of_row? hafter hmoved]
        exact Passage.moved (Status.admits_iff_edge.mp ha) message
  | discarded hop hunit hstranded =>
      rcases hrows hbefore with ⟨r, hr, _⟩
      rw [Store.get_of_row? hbefore hr, Store.get_eq_notFound_iff.mpr hafter]
      exact Passage.discarded hop hunit ((Row.isStranded_iff hr).mp hstranded).2

theorem passage_run {before : List Entry} {e : Entry} (hops : Time.AllDatable (before ++ [e]))
    (orderId : String) :
    Passage e.1.instant (empty.run before).units e.2 orderId
      ((empty.run before).store.get orderId)
      ((empty.run (before ++ [e])).store.get orderId) := by
  have hsound : empty.Sound := Sound.of_no_units .empty
  rw [run_append]
  exact passage (hsound.run hops.left) (isWellFormed_run hsound hops.left nofun)
    (hops.right e (List.mem_singleton_self e)) e.2 orderId

theorem Passage.of_isFinal {now : Time.Instant} {units : List String} {op : Op}
    {orderId : String} {r : Record} {after : Except Store.Error Record}
    (h : Passage now units op orderId (.ok r) after) (hfinal : r.status.isFinal = true) :
    after = .ok r := by
  cases h with
  | kept => rfl
  | moved hedge =>
      rw [Status.not_isFinal_of_admits (Status.admits_iff_edge.mpr hedge)] at hfinal
      cases hfinal
  | discarded hop hunit hcreated =>
      rw [hcreated] at hfinal
      cases hfinal

theorem get_run_of_isFinal {before after : List Entry}
    (hops : Time.AllDatable (before ++ after)) {orderId : String} {r : Record}
    (hget : (empty.run before).store.get orderId = .ok r)
    (hfinal : r.status.isFinal = true) :
    (empty.run (before ++ after)).store.get orderId = .ok r := by
  induction after using List.reverseRecOn with
  | nil =>
      rw [List.append_nil]
      exact hget
  | append_singleton after e ih =>
      rw [← List.append_assoc] at hops ⊢
      have hpassage := passage_run hops orderId
      rw [ih hops.left] at hpassage
      exact hpassage.of_isFinal hfinal

/-- The record of an order was begun after a run, and has been there since. -/
structure Origin (before : List Entry) (now : Time.Moment) (d : Draft) (after : List Entry)
    (orderId : String) (r : Record) : Prop where
  same : d.orderId = orderId
  absent : (empty.run before).store.get orderId = .error (.notFound orderId)
  present : ∀ {middle rest}, after = middle ++ rest →
    ∃ r', (empty.run (before ++ (now, .begin d) :: middle)).store.get orderId = .ok r'
  isOf : r.IsOf now.instant d

theorem Origin.extend {before after : List Entry} {now : Time.Moment} {d : Draft}
    {orderId : String} {r r' : Record} (h : Origin before now d after orderId r) {e : Entry}
    (hget : (empty.run (before ++ (now, .begin d) :: (after ++ [e]))).store.get orderId = .ok r')
    (hisOf : r'.IsOf now.instant d) : Origin before now d (after ++ [e]) orderId r' where
  same := h.same
  absent := h.absent
  present := by
    intro middle rest hsplit
    rcases List.prefix_concat_iff.mp ⟨rest, hsplit.symm⟩ with rfl | ⟨rest, hrest⟩
    · exact ⟨r', hget⟩
    · exact h.present hrest.symm
  isOf := hisOf

theorem exists_origin {ops : List Entry} (hops : Time.AllDatable ops) {orderId : String}
    {r : Record} (hget : (empty.run ops).store.get orderId = .ok r) :
    ∃ before now d after, ops = before ++ (now, .begin d) :: after ∧
      Origin before now d after orderId r := by
  -- The last operation has begun the record, or found it and kept its origin.
  induction ops using List.reverseRecOn generalizing r with
  | nil => cases hget
  | append_singleton ops e ih =>
      have hpassage := passage_run hops orderId
      rw [hget] at hpassage
      generalize hold : (empty.run ops).store.get orderId = old at hpassage
      cases hpassage with
      | @begun d hop hid hunit =>
          rcases e with ⟨now, op⟩
          cases hop
          refine ⟨ops, now, d, [], rfl, hid, hold, ?_, isOf_ofDraft _ d⟩
          intro middle rest hsplit
          rw [(List.nil_eq_append_iff.mp hsplit).1]
          exact ⟨_, hget⟩
      | kept =>
          rcases ih hops.left hold with ⟨before, now, d, after, rfl, horigin⟩
          refine ⟨before, now, d, after ++ [e], by simp, horigin.extend ?_ horigin.isOf⟩
          rw [List.append_assoc, List.cons_append] at hget
          exact hget
      | moved hedge message =>
          rcases ih hops.left hold with ⟨before, now, d, after, rfl, horigin⟩
          refine ⟨before, now, d, after ++ [e], by simp,
            horigin.extend ?_ (horigin.isOf.moved _ _ message)⟩
          rw [List.append_assoc, List.cons_append] at hget
          exact hget

/-- The law of the history of every order in every run. -/
theorem history_run {ops : List Entry} (hops : Time.AllDatable ops) (orderId : String) :
    (∀ before e after, ops = before ++ e :: after →
      Passage e.1.instant (empty.run before).units e.2 orderId
        ((empty.run before).store.get orderId)
        ((empty.run (before ++ [e])).store.get orderId)) ∧
    (∀ before after r, ops = before ++ after →
      (empty.run before).store.get orderId = .ok r → r.status.isFinal = true →
      (empty.run ops).store.get orderId = .ok r) ∧
    (∀ r, (empty.run ops).store.get orderId = .ok r →
      ∃ before now d after, ops = before ++ (now, .begin d) :: after ∧
        Origin before now d after orderId r) := by
  refine ⟨?_, ?_, ?_⟩
  · intro before e after hsplit
    rw [← List.singleton_append, ← List.append_assoc] at hsplit
    subst hsplit
    exact passage_run hops.left orderId
  · intro before after r hsplit hget hfinal
    subst hsplit
    exact get_run_of_isFinal hops hget hfinal
  · intro r hget
    exact exists_origin hops hget

def cancelledEarly : List Entry :=
  [ ({ wall := 0, elapsed := 0 },
      .begin { orderId := "order-1", templateId := none, device := "agv-01", revision := 0 }),
    ({ wall := 250000000, elapsed := 250000000 }, .update "order-1" .cancelled none) ]

/-- The send succeeds after all, and the bridge recovers. -/
def lateOutcome : List Entry :=
  [ ({ wall := 500000000, elapsed := 500000000 }, .commitSent "order-1"),
    ({ wall := 750000000, elapsed := 750000000 }, .recover) ]

theorem history_run_lateOutcome :
    ∃ r, (empty.run cancelledEarly).store.get "order-1" = .ok r ∧ r.status = .cancelled ∧
      (empty.run (cancelledEarly ++ lateOutcome)).store.get "order-1" = .ok r := by
  have hops : Time.AllDatable (cancelledEarly ++ lateOutcome) := by decide +kernel
  have hstatus : ((empty.run cancelledEarly).store.get "order-1").map Record.status =
      .ok .cancelled := by decide +kernel
  rcases Store.exists_get_of_status hstatus with ⟨r, hget, hcancelled⟩
  have hfinal : r.status.isFinal = true := by
    rw [hcancelled]
    rfl
  exact ⟨r, hget, hcancelled,
    (history_run hops "order-1").2.1 cancelledEarly lateOutcome r rfl hget hfinal⟩

end Ledger
end Record
end FleetBridge
