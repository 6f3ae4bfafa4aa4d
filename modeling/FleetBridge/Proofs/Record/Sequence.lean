import FleetBridge.Proofs.Record.History

/-!
# The sequence of rows

A new row goes behind all others, and nothing moves a row past another one.  So the rows of
a store stand in the order in which their records were begun.  The numbers that a table
gives to its rows ascend along them, though a number comes again once the row that had the
largest is gone.
-/

namespace FleetBridge
namespace Record

namespace Store

def orderIds (s : Store) : List String :=
  s.rows.map (fun r => r.orderId)

theorem mem_orderIds_iff {s : Store} {orderId : String} :
    orderId ∈ s.orderIds ↔ s.row? orderId ≠ none := by
  rw [orderIds, List.mem_map, Option.ne_none_iff_exists']
  constructor
  · intro h
    rcases h with ⟨row, hrow, rfl⟩
    exact ⟨row, row?_of_mem hrow⟩
  · intro h
    rcases h with ⟨row, hrow⟩
    exact ⟨row, row?_eq_some_iff.mp hrow⟩

theorem mem_orderIds_of_get {s : Store} {orderId : String} {r : Record}
    (h : s.get orderId = .ok r) : orderId ∈ s.orderIds := by
  rw [mem_orderIds_iff]
  intro hnone
  rw [get_eq_notFound_iff.mpr hnone] at h
  cases h

theorem sublist_of_orderIds_eq {s t : Store} (h : t.orderIds = s.orderIds) :
    t.orderIds.Sublist s.orderIds := by
  rw [h]

theorem orderIds_map (f : Row → Row) (h : ∀ r, (f r).orderId = r.orderId) (s : Store) :
    (s.map f h).orderIds = s.orderIds := by
  simp [orderIds, map, h]

theorem orderIds_modify (orderId : String) (f : Row → Row)
    (h : ∀ r, (f r).orderId = r.orderId) (s : Store) :
    (s.modify orderId f h).orderIds = s.orderIds :=
  orderIds_map _ _ s

theorem orderIds_land (orderId : String) (s : Store) :
    (s.land orderId).orderIds = s.orderIds :=
  orderIds_modify _ _ _ s

theorem orderIds_filter_sublist (p : Row → Bool) (s : Store) :
    (s.filter p).orderIds.Sublist s.orderIds :=
  List.filter_sublist.map _

theorem orderIds_begin {now : Time.Instant} {d : Draft} {s t : Store}
    (h : s.begin now d = .ok t) :
    d.orderId ∉ s.orderIds ∧ t.orderIds = s.orderIds ++ [d.orderId] := by
  rw [begin_eq_ok_iff, append?] at h
  by_cases hmem : (Row.ofDraft now d).orderId ∈ s.rows.map (fun r => r.orderId)
  · rw [dif_pos hmem] at h
    cases h
  · rw [dif_neg hmem] at h
    cases h
    refine ⟨hmem, ?_⟩
    simp [orderIds, Row.ofDraft, Columns.ofDraft]

theorem orderIds_transition {now : Time.Instant} {orderId : String} {status : Status}
    {message : Option String} {s t : Store}
    (h : s.transition now orderId status message = .ok t) : t.orderIds = s.orderIds := by
  rcases transition_eq_ok_iff.mp h with ⟨_, _, _, _, _, rfl⟩
  exact orderIds_modify _ _ _ s

theorem orderIds_update {now : Time.Instant} {orderId : String} {status : Status}
    {message : Option String} {s t : Store} {r : Record}
    (h : s.update now orderId status message = .ok (r, t)) : t.orderIds = s.orderIds := by
  rcases eq_modify_of_update h with ⟨_, _, _, _, _, rfl⟩
  exact orderIds_modify _ _ _ s

theorem orderIds_settle (now : Time.Instant) (orderId : String) (status : Status)
    (message : Option String) (s : Store) :
    (s.settle now orderId status message).2.orderIds = s.orderIds := by
  simp only [settle]
  cases htransition : (s.land orderId).transition now orderId status message with
  | error e => exact orderIds_land orderId s
  | ok moved => exact (orderIds_transition htransition).trans (orderIds_land orderId s)

theorem orderIds_discard_sublist (orderId : String) (s : Store) :
    (s.discard orderId).orderIds.Sublist s.orderIds := by
  unfold discard
  split
  · exact orderIds_filter_sublist _ s
  · rw [orderIds_land]

theorem orderIds_failEach {now : Time.Instant} {orderIds : List String}
    {records records' : List Record} {s t : Store}
    (h : failEach now orderIds (records, s) = .ok (records', t)) :
    t.orderIds = s.orderIds := by
  induction orderIds generalizing records s with
  | nil =>
      cases h
      rfl
  | cons first rest ih =>
      rw [failEach_cons] at h
      cases hupdate : s.update now first .failed (some interruptedDispatch) with
      | error e =>
          rw [hupdate] at h
          cases h
      | ok moved =>
          rw [hupdate] at h
          exact (ih h).trans (orderIds_update hupdate)

theorem orderIds_recover {now : Time.Instant} {s t : Store} {records : List Record}
    (h : s.recover now = .ok (records, t)) : t.orderIds = s.orderIds := by
  rw [recover_eq] at h
  cases hfail : failEach now s.stranded ([], s) with
  | error e =>
      rw [hfail] at h
      cases h
  | ok failed =>
      rw [hfail] at h
      cases h
      exact (orderIds_map _ _ _).trans (orderIds_failEach hfail)

end Store

namespace Ledger

theorem orderIds_close {l : Ledger} {unit : String} {f : Store → Store}
    (h : (f l.store).orderIds.Sublist l.store.orderIds) :
    (l.close unit f).store.orderIds.Sublist l.store.orderIds := by
  unfold close
  split
  · exact h
  · exact List.Sublist.refl _

/-- An operation takes rows out of the sequence, or puts a new one behind it. -/
theorem orderIds_step (now : Time.Moment) (op : Op) (l : Ledger) :
    (l.step now op).store.orderIds.Sublist l.store.orderIds ∨
      ∃ d, op = .begin d ∧ d.orderId ∉ l.store.orderIds ∧
        (l.step now op).store.orderIds = l.store.orderIds ++ [d.orderId] := by
  cases op with
  | begin d =>
      simp only [step]
      cases hbegin : l.store.begin now.instant d with
      | error e => exact Or.inl (List.Sublist.refl _)
      | ok store => exact Or.inr ⟨d, rfl, Store.orderIds_begin hbegin⟩
  | commitSent unit =>
      have hsame := Store.orderIds_settle now.instant unit .sent none l.store
      exact Or.inl (orderIds_close (Store.sublist_of_orderIds_eq hsame))
  | commitFailed unit reason =>
      have hsame := Store.orderIds_settle now.instant unit .failed (some reason) l.store
      exact Or.inl (orderIds_close (Store.sublist_of_orderIds_eq hsame))
  | discard unit => exact Or.inl (orderIds_close (Store.orderIds_discard_sublist _ _))
  | drop unit => exact Or.inl (orderIds_close (Store.orderIds_discard_sublist _ _))
  | lose unit => exact Or.inl (orderIds_close (List.Sublist.refl _))
  | update orderId status message =>
      simp only [step]
      cases hupdate : l.store.update now.instant orderId status message with
      | error e => exact Or.inl (List.Sublist.refl _)
      | ok moved => exact Or.inl (Store.sublist_of_orderIds_eq (Store.orderIds_update hupdate))
  | recover =>
      simp only [step]
      cases hrecover : l.store.recover now.instant with
      | error e => exact Or.inl (List.Sublist.refl _)
      | ok recovered =>
          exact Or.inl (Store.sublist_of_orderIds_eq (Store.orderIds_recover hrecover))
  | reopen => exact Or.inl (List.Sublist.refl _)

theorem run_append_singleton (ops : List Entry) (e : Entry) (l : Ledger) :
    l.run (ops ++ [e]) = (l.run ops).step e.1 e.2 :=
  run_append ops [e] l

/-!
# Beginnings in a run
-/

/-- The record of an order was begun by the operation at the place `n` of a run, and has
been there since. -/
def BegunAt (ops : List Entry) (orderId : String) (n : Nat) : Prop :=
  ∃ before now d after, ops = before ++ (now, .begin d) :: after ∧ before.length = n ∧
    d.orderId = orderId ∧ orderId ∉ (empty.run before).store.orderIds ∧
    ∀ middle rest, after = middle ++ rest →
      orderId ∈ (empty.run (before ++ (now, .begin d) :: middle)).store.orderIds

def BegunBefore (ops : List Entry) (orderId other : String) : Prop :=
  ∃ m n, BegunAt ops orderId m ∧ BegunAt ops other n ∧ m < n

theorem BegunAt.lt {ops : List Entry} {orderId : String} {n : Nat}
    (h : BegunAt ops orderId n) : n < ops.length := by
  rcases h with ⟨before, now, d, after, rfl, rfl, _⟩
  simp

theorem BegunAt.concat {ops : List Entry} {orderId : String} {n : Nat}
    (h : BegunAt ops orderId n) {e : Entry}
    (hmem : orderId ∈ (empty.run (ops ++ [e])).store.orderIds) :
    BegunAt (ops ++ [e]) orderId n := by
  rcases h with ⟨before, now, d, after, rfl, hn, hid, habsent, hpresent⟩
  refine ⟨before, now, d, after ++ [e], by simp, hn, hid, habsent, ?_⟩
  intro middle rest hsplit
  rcases List.prefix_concat_iff.mp ⟨rest, hsplit.symm⟩ with rfl | ⟨rest, hrest⟩
  · simpa using hmem
  · exact hpresent middle rest hrest.symm

theorem begunAt_last {ops : List Entry} {now : Time.Moment} {d : Draft}
    (hfree : d.orderId ∉ (empty.run ops).store.orderIds)
    (hmem : d.orderId ∈ (empty.run (ops ++ [(now, .begin d)])).store.orderIds) :
    BegunAt (ops ++ [(now, .begin d)]) d.orderId ops.length := by
  refine ⟨ops, now, d, [], rfl, rfl, rfl, hfree, ?_⟩
  intro middle rest hsplit
  rw [(List.nil_eq_append_iff.mp hsplit).1]
  exact hmem

/-- Whatever is there was begun, and the rows stand as their records were begun. -/
theorem begun_run (ops : List Entry) :
    (∀ orderId ∈ (empty.run ops).store.orderIds, ∃ n, BegunAt ops orderId n) ∧
      (empty.run ops).store.orderIds.Pairwise (BegunBefore ops) := by
  induction ops using List.reverseRecOn with
  | nil => exact ⟨nofun, List.Pairwise.nil⟩
  | append_singleton ops e ih =>
      rcases ih with ⟨hexists, hpairwise⟩
      have hstep := orderIds_step e.1 e.2 (empty.run ops)
      rw [← run_append_singleton] at hstep
      rcases hstep with hsub | ⟨d, hop, hfree, hids⟩
      · constructor
        · intro orderId hmem
          rcases hexists orderId (hsub.subset hmem) with ⟨n, hn⟩
          exact ⟨n, hn.concat hmem⟩
        · apply (hpairwise.sublist hsub).imp_of_mem
          intro a b ha hb hab
          rcases hab with ⟨m, n, hm, hn, hlt⟩
          exact ⟨m, n, hm.concat ha, hn.concat hb, hlt⟩
      · rcases e with ⟨now, op⟩
        cases hop
        have hall : ∀ orderId ∈ (empty.run ops).store.orderIds,
            orderId ∈ (empty.run (ops ++ [(now, .begin d)])).store.orderIds := by
          intro orderId hmem
          rw [hids]
          exact List.mem_append_left _ hmem
        have hlast := begunAt_last hfree (by rw [hids]; simp)
        rw [hids]
        constructor
        · intro orderId hmem
          rcases List.mem_append.mp hmem with hold | hnew
          · rcases hexists orderId hold with ⟨n, hn⟩
            exact ⟨n, hn.concat (hall orderId hold)⟩
          · rw [List.mem_singleton.mp hnew]
            exact ⟨ops.length, hlast⟩
        · rw [List.pairwise_append]
          refine ⟨?_, List.pairwise_singleton _ _, ?_⟩
          · apply hpairwise.imp_of_mem
            intro a b ha hb hab
            rcases hab with ⟨m, n, hm, hn, hlt⟩
            exact ⟨m, n, hm.concat (hall a ha), hn.concat (hall b hb), hlt⟩
          · intro a ha b hb
            rw [List.mem_singleton.mp hb]
            rcases hexists a ha with ⟨m, hm⟩
            exact ⟨m, ops.length, hm.concat (hall a ha), hlast, hm.lt⟩

theorem BegunAt.le {ops : List Entry} {orderId : String} {m n : Nat}
    (hm : BegunAt ops orderId m) (hn : BegunAt ops orderId n) : n ≤ m := by
  rcases hm with ⟨before, now, d, after, hops, rfl, _, _, hpresent⟩
  rcases hn with ⟨before', now', d', after', hops', rfl, _, habsent, _⟩
  rw [hops, List.append_eq_append_iff] at hops'
  rcases hops' with ⟨middle, hbefore, hrest⟩ | ⟨middle, hbefore, _⟩
  · cases middle with
    | nil => simp [hbefore]
    | cons first middle =>
        -- The record was there before the later place, so it was not begun there.
        injection hrest with hfirst hafter
        subst hfirst
        rw [hbefore] at habsent
        exact absurd (hpresent middle _ hafter) habsent
  · simp [hbefore]

theorem BegunAt.unique {ops : List Entry} {orderId : String} {m n : Nat}
    (hm : BegunAt ops orderId m) (hn : BegunAt ops orderId n) : m = n :=
  Nat.le_antisymm (hn.le hm) (hm.le hn)

theorem Origin.begunAt {before after : List Entry} {now : Time.Moment} {d : Draft}
    {orderId : String} {r : Record} (h : Origin before now d after orderId r) :
    BegunAt (before ++ (now, .begin d) :: after) orderId before.length := by
  refine ⟨before, now, d, after, rfl, rfl, h.same, ?_, ?_⟩
  · rw [Store.mem_orderIds_iff, not_not]
    exact Store.get_eq_notFound_iff.mp h.absent
  · intro middle rest hsplit
    rcases h.present hsplit with ⟨_, hget⟩
    exact Store.mem_orderIds_of_get hget

/-- The record was begun by the operation at the place `n` of a run, and its creation is
the wall clock of then, to the microsecond. -/
def StemsFrom (ops : List Entry) (n : Nat) (r : Record) : Prop :=
  BegunAt ops r.orderId n ∧
    ∃ now d, ops[n]? = some (now, .begin d) ∧ r.createdAt = now.instant.cut

theorem exists_stemsFrom {ops : List Entry} (hops : Time.AllDatable ops) {r : Record}
    (hget : (empty.run ops).store.get r.orderId = .ok r) : ∃ n, StemsFrom ops n r := by
  rcases exists_origin hops hget with ⟨before, now, d, after, rfl, horigin⟩
  exact ⟨before.length, horigin.begunAt, now, d, by simp, horigin.isOf.createdAt⟩

theorem StemsFrom.unique {ops : List Entry} {m n : Nat} {r : Record}
    (hm : StemsFrom ops m r) (hn : StemsFrom ops n r) : m = n :=
  hm.1.unique hn.1

/-!
# Row numbers
-/

/-- The numbers of the rows after an operation on a store: a row that is there keeps its
number, and one that comes gets the number behind the largest. -/
def renumber (number : String → Nat) (s : Store) (orderId : String) : Nat :=
  if orderId ∈ s.orderIds then number orderId
  else (s.orderIds.map number).max?.getD 0 + 1

def rowNumber (ops : List Entry) : String → Nat :=
  (ops.foldl (fun (l, number) e => (l.step e.1 e.2, renumber number l.store))
    (empty, fun _ => 0)).2

theorem rowNumber_append_singleton (ops : List Entry) (e : Entry) :
    rowNumber (ops ++ [e]) = renumber (rowNumber ops) (empty.run ops).store := by
  have hledger : ∀ (ops : List Entry) (l : Ledger) (number : String → Nat),
      (ops.foldl (fun (l, number) e => (l.step e.1 e.2, renumber number l.store))
        (l, number)).1 = l.run ops := by
    intro ops
    induction ops with
    | nil => exact fun _ _ => rfl
    | cons e ops ih => exact fun l number => ih (l.step e.1 e.2) _
  simp only [rowNumber, List.foldl_append, List.foldl_cons, List.foldl_nil, hledger]

theorem renumber_of_mem {number : String → Nat} {s : Store} {orderId : String}
    (h : orderId ∈ s.orderIds) : renumber number s orderId = number orderId :=
  if_pos h

theorem lt_renumber_of_mem {number : String → Nat} {s : Store} {orderId other : String}
    (h : orderId ∈ s.orderIds) (hother : other ∉ s.orderIds) :
    number orderId < renumber number s other := by
  rw [renumber, if_neg hother]
  exact Nat.lt_succ_of_le (List.le_max?_getD_of_mem (List.mem_map_of_mem h))

/-- Row numbers ascend along the rows, also where one has been given before. -/
theorem pairwise_rowNumber (ops : List Entry) :
    (empty.run ops).store.orderIds.Pairwise
      (fun orderId other => rowNumber ops orderId < rowNumber ops other) := by
  induction ops using List.reverseRecOn with
  | nil => exact List.Pairwise.nil
  | append_singleton ops e ih =>
      have hold : (empty.run ops).store.orderIds.Pairwise (fun orderId other =>
          rowNumber (ops ++ [e]) orderId < rowNumber (ops ++ [e]) other) := by
        apply ih.imp_of_mem
        intro a b ha hb hab
        rw [rowNumber_append_singleton, renumber_of_mem ha, renumber_of_mem hb]
        exact hab
      have hstep := orderIds_step e.1 e.2 (empty.run ops)
      rw [← run_append_singleton] at hstep
      rcases hstep with hsub | ⟨d, _, hfree, hids⟩
      · exact hold.sublist hsub
      · rw [hids, List.pairwise_append]
        refine ⟨hold, List.pairwise_singleton _ _, ?_⟩
        intro a ha b hb
        rw [List.mem_singleton.mp hb, rowNumber_append_singleton, renumber_of_mem ha]
        exact lt_renumber_of_mem ha hfree

end Ledger
end Record
end FleetBridge
