import FleetBridge.Proofs.Record.Recovery
import FleetBridge.Proofs.Record.Sequence
import FleetBridge.Proofs.Record.WellFormed
import FleetBridge.Proofs.Time.Order

/-!
# Lists of records

The queries of a store sort rows by the stamp of their creation, which is text, and rows
with the same stamp stay in their sequence.  For the records of a store that was fresh once
this is the order of their creation to the microsecond, and of their beginnings where that
is the same, whether or not the clock was set back in between.  All queries look at the same
records, so what they list and count fits together.
-/

namespace FleetBridge
namespace Record

namespace Store

/-!
# Sorting rows
-/

theorem oldestFirst_perm (rows : List Row) : (oldestFirst rows).Perm rows :=
  List.mergeSort_perm rows _

theorem not_lt_createdAt_iff {a b : Row} :
    (!decide (b.createdAt < a.createdAt)) = true ↔ a.createdAt ≤ b.createdAt := by
  rw [Bool.not_eq_true', decide_eq_false_iff_not, String.not_lt]

theorem not_lt_createdAt_trans (a b c : Row) (hab : (!decide (b.createdAt < a.createdAt)) = true)
    (hbc : (!decide (c.createdAt < b.createdAt)) = true) :
    (!decide (c.createdAt < a.createdAt)) = true := by
  rw [not_lt_createdAt_iff] at hab hbc ⊢
  exact String.le_trans hab hbc

theorem not_lt_createdAt_total (a b : Row) :
    (!decide (b.createdAt < a.createdAt) || !decide (a.createdAt < b.createdAt)) = true := by
  rw [Bool.or_eq_true, not_lt_createdAt_iff, not_lt_createdAt_iff]
  exact String.le_total a.createdAt b.createdAt

theorem pairwise_createdAt_oldestFirst (rows : List Row) :
    (oldestFirst rows).Pairwise (fun a b => a.createdAt ≤ b.createdAt) :=
  (List.pairwise_mergeSort not_lt_createdAt_trans not_lt_createdAt_total rows).imp
    not_lt_createdAt_iff.mp

theorem filter_oldestFirst (rows : List Row) (text : String) :
    (oldestFirst rows).filter (fun r => r.createdAt == text) =
      rows.filter (fun r => r.createdAt == text) := by
  have hsame : (rows.filter (fun r => r.createdAt == text)).Pairwise
      (fun a b => (!decide (b.createdAt < a.createdAt)) = true) := by
    apply List.pairwise_of_forall_mem_list
    intro a ha b hb
    have ha := beq_iff_eq.mp (List.mem_filter.mp ha).2
    have hb := beq_iff_eq.mp (List.mem_filter.mp hb).2
    rw [not_lt_createdAt_iff]
    exact ha.trans hb.symm ▸ String.le_refl a.createdAt
  have hsub : (rows.filter (fun r => r.createdAt == text)).Sublist (oldestFirst rows) :=
    List.sublist_mergeSort not_lt_createdAt_trans not_lt_createdAt_total hsame
      List.filter_sublist
  have hfiltered := hsub.filter (fun r => r.createdAt == text)
  rw [List.filter_filter] at hfiltered
  simp only [Bool.and_self] at hfiltered
  exact (hfiltered.eq_of_length ((oldestFirst_perm rows).filter _).length_eq.symm).symm

theorem pairwise_oldestFirst (rows : List Row) :
    (oldestFirst rows).Pairwise (fun a b =>
      a.createdAt < b.createdAt ∨ a.createdAt = b.createdAt ∧ [a, b].Sublist rows) := by
  rw [List.pairwise_iff_forall_sublist]
  intro a b hsub
  have hle := List.pairwise_iff_forall_sublist.mp (pairwise_createdAt_oldestFirst rows) hsub
  by_cases hlt : a.createdAt < b.createdAt
  · exact Or.inl hlt
  · have heq := String.le_antisymm hle (String.not_lt.mp hlt)
    refine Or.inr ⟨heq, ?_⟩
    have hsame := hsub.filter (fun r => r.createdAt == b.createdAt)
    rw [filter_oldestFirst] at hsame
    simp only [List.filter_cons, heq, beq_self_eq_true, if_true, List.filter_nil] at hsame
    exact hsame.trans List.filter_sublist

/-!
# Pages
-/

theorem toInt_eq (n : UInt64) :
    n.toInt64.toInt = if n.toNat < 2 ^ 63 then (n.toNat : Int) else n.toNat - 2 ^ 64 := by
  have hcond : n.toInt64.toInt =
      if 2 * n.toNat < 2 ^ 64 then (n.toNat : Int) else n.toNat - (2 ^ 64 : Nat) :=
    BitVec.toInt_eq_toNat_cond n.toBitVec
  rw [hcond]
  split <;> split <;> omega

/-- What a page shows of a list.  A number that is negative when it is read as a signed one
counts as no offset, and as no limit. -/
def shown {α : Type} (limit offset : UInt64) (xs : List α) : List α :=
  let rest := xs.drop (if offset.toNat < 2 ^ 63 then offset.toNat else 0)
  if limit.toNat < 2 ^ 63 then rest.take limit.toNat else rest

theorem page_eq_shown (limit offset : UInt64) (rows : List Row) :
    page limit offset rows = shown limit offset rows := by
  have hlimit := limit.toNat_lt
  have hoffset := offset.toNat_lt
  have hdrop : offset.toInt64.toInt.toNat =
      if offset.toNat < 2 ^ 63 then offset.toNat else 0 := by
    rw [toInt_eq]
    split <;> omega
  simp only [page, shown, hdrop, toInt_eq limit]
  by_cases hsmall : limit.toNat < 2 ^ 63
  · rw [if_pos hsmall, if_neg (by omega), if_pos hsmall, Int.toNat_natCast]
  · rw [if_neg hsmall, if_pos (by omega), if_neg hsmall]

theorem map_shown {α β : Type} (f : α → β) (limit offset : UInt64) (xs : List α) :
    (shown limit offset xs).map f = shown limit offset (xs.map f) := by
  unfold shown
  by_cases h : limit.toNat < 2 ^ 63
  · simp only [if_pos h, List.map_take, List.map_drop]
  · simp only [if_neg h, List.map_drop]

theorem mem_of_mem_shown {α : Type} {limit offset : UInt64} {xs : List α} {x : α}
    (h : x ∈ shown limit offset xs) : x ∈ xs := by
  unfold shown at h
  by_cases hsmall : limit.toNat < 2 ^ 63
  · simp only [if_pos hsmall] at h
    exact List.mem_of_mem_drop (List.mem_of_mem_take h)
  · simp only [if_neg hsmall] at h
    exact List.mem_of_mem_drop h

theorem shown_zero {α : Type} {limit : UInt64} {xs : List α} (h : xs.length ≤ limit.toNat) :
    shown limit 0 xs = xs := by
  simp only [shown, UInt64.reduceToNat, Nat.reducePow, Nat.zero_lt_succ,
    List.drop_zero, List.take_of_length_le h, ite_self]

/-!
# Reading rows
-/

/-- Every row of a store stands for the record that `f` gives. -/
def ReadsAs (s : Store) (f : Row → Record) : Prop :=
  ∀ row ∈ s.rows, row.record = .ok (f row)

theorem mapM_read {f : Row → Record} {rows : List Row}
    (h : ∀ row ∈ rows, row.record = .ok (f row)) :
    List.mapM read rows = .ok (rows.map f) := by
  induction rows with
  | nil => rfl
  | cons row rows ih =>
      rw [List.forall_mem_cons] at h
      rw [List.mapM_cons, ih h.2]
      simp only [read, h.1]
      rfl

section

variable {s : Store} {f : Row → Record} (hf : s.ReadsAs f)

include hf

theorem ReadsAs.orderId {row : Row} (h : row ∈ s.rows) : (f row).orderId = row.orderId := by
  rcases Columns.record_eq_ok_iff.mp (hf row h) with ⟨_, _, _, _, _, _, _, _, heq⟩
  rw [heq]

theorem ReadsAs.device {row : Row} (h : row ∈ s.rows) : (f row).device = row.device := by
  rcases Columns.record_eq_ok_iff.mp (hf row h) with ⟨_, _, _, _, _, _, _, _, heq⟩
  rw [heq]

theorem ReadsAs.status_iff {row : Row} (h : row ∈ s.rows) (status : Status) :
    row.status = status.name ↔ (f row).status = status :=
  Columns.status_eq_name_iff (hf row h) status

theorem ReadsAs.mem_iff {r : Record} : r ∈ s.rows.map f ↔ s.get r.orderId = .ok r := by
  rw [List.mem_map, get_eq_ok_iff]
  constructor
  · intro h
    rcases h with ⟨row, hrow, rfl⟩
    exact ⟨row, row?_eq_some_iff.mpr ⟨hrow, (hf.orderId hrow).symm⟩, hf row hrow⟩
  · intro h
    rcases h with ⟨row, hrow, hr⟩
    have hmem := (row?_eq_some_iff.mp hrow).1
    exact ⟨row, hmem, Except.ok.inj ((hf row hmem).symm.trans hr)⟩

theorem ReadsAs.nodup : (s.rows.map f).Nodup := by
  apply List.Nodup.of_map Record.orderId
  have hids : (s.rows.map f).map Record.orderId = s.rows.map (fun r => r.orderId) := by
    rw [List.map_map]
    exact List.map_congr_left (fun row hrow => hf.orderId hrow)
  rw [hids]
  exact s.nodup

theorem ReadsAs.mapM_oldestFirst (p : Row → Bool) :
    List.mapM read (oldestFirst (s.rows.filter p)) =
      .ok ((oldestFirst (s.rows.filter p)).map f) := by
  apply mapM_read
  intro row hrow
  exact hf row (List.mem_of_mem_filter ((oldestFirst_perm _).mem_iff.mp hrow))

theorem ReadsAs.listByDevice_eq (device : String) (limit offset : UInt64) :
    s.listByDevice device limit offset = .ok (shown limit offset
      ((oldestFirst (s.rows.filter (fun r => r.device == device))).map f).reverse) := by
  have hread : ∀ row ∈ shown limit offset
      (oldestFirst (s.rows.filter (fun r => r.device == device))).reverse,
      row.record = .ok (f row) := by
    intro row hrow
    have hmem := List.mem_reverse.mp (mem_of_mem_shown hrow)
    exact hf row (List.mem_of_mem_filter ((oldestFirst_perm _).mem_iff.mp hmem))
  rw [listByDevice, page_eq_shown, mapM_read hread, map_shown, List.map_reverse]

theorem ReadsAs.status_beq {row : Row} (h : row ∈ s.rows) (status : Status) :
    (row.status == status.name) = ((f row).status == status) := by
  rw [Bool.eq_iff_iff, beq_iff_eq, beq_iff_eq]
  exact hf.status_iff h status

theorem ReadsAs.device_beq {row : Row} (h : row ∈ s.rows) (device : String) :
    (row.device == device) = ((f row).device == device) := by
  rw [hf.device h]

theorem ReadsAs.countByStatus_none (status : Status) :
    s.countByStatus status none = (s.rows.map f).countP (fun r => r.status == status) := by
  rw [List.countP_map]
  apply List.countP_congr
  intro row hrow
  simp [hf.status_beq hrow]

theorem ReadsAs.countByStatus_some (status : Status) (device : String) :
    s.countByStatus status (some device) =
      (s.rows.map f).countP (fun r => r.status == status && r.device == device) := by
  rw [List.countP_map]
  apply List.countP_congr
  intro row hrow
  simp [hf.status_beq hrow, hf.device_beq hrow]

end

theorem map_oldestFirst_perm {f : Row → Record} {p : Row → Bool} {q : Record → Bool}
    {rows : List Row} (h : ∀ row ∈ rows, p row = q (f row)) :
    ((oldestFirst (rows.filter p)).map f).Perm ((rows.map f).filter q) := by
  rw [List.filter_map]
  have hfilter : rows.filter p = rows.filter (q ∘ f) := List.filter_congr h
  rw [hfilter]
  exact (oldestFirst_perm _).map f

/-- A list of the records of a store with a property, each of them once. -/
structure Lists (s : Store) (p : Record → Prop) (records : List Record) : Prop where
  nodup : records.Nodup
  mem_iff : ∀ r, r ∈ records ↔ p r ∧ ∃ orderId, s.get orderId = .ok r
  get : ∀ r ∈ records, s.get r.orderId = .ok r

theorem ReadsAs.lists {s : Store} {f : Row → Record} (hf : s.ReadsAs f) {p : Record → Prop}
    {q : Record → Bool} (hq : ∀ r, q r = true ↔ p r) {records : List Record}
    (h : records.Perm ((s.rows.map f).filter q)) : s.Lists p records where
  nodup := h.nodup_iff.mpr (hf.nodup.filter q)
  mem_iff r := by
    rw [h.mem_iff, List.mem_filter, hf.mem_iff, hq, and_comm]
    constructor
    · intro hr
      exact ⟨hr.1, r.orderId, hr.2⟩
    · intro hr
      rcases hr with ⟨hr, orderId, hget⟩
      rw [orderId_of_get hget]
      exact ⟨hr, hget⟩
  get r hr := hf.mem_iff.mp (List.mem_of_mem_filter (h.mem_iff.mp hr))

end Store

theorem sum_countP_status (records : List Record) :
    (Status.all.map (fun status => records.countP (fun r => r.status == status))).sum =
      records.length := by
  induction records with
  | nil => rfl
  | cons r records ih =>
      simp only [Status.all, List.map_cons, List.map_nil, List.sum_cons, List.sum_nil,
        List.countP_cons, List.length_cons] at ih ⊢
      cases r.status <;> simp <;> omega

/-!
# Creation
-/

/-- A row whose creation is stamped as that of an instant in a year of four digits. -/
def Row.IsDated (row : Row) : Prop :=
  ∃ i : Time.Instant, i.IsDatable ∧ row.createdAt = stamp i

theorem Row.Change.createdAt {now : Time.Instant} {row row' : Row} (h : row.Change now row') :
    row'.createdAt = row.createdAt := by
  cases h with
  | kept => rfl
  | landed => rfl
  | moved => rfl
  | settled => rfl

/-- A stamp is that of the instant without what is finer than a microsecond. -/
theorem stamp_cut (i : Time.Instant) : stamp i.cut = stamp i := by
  have hsecond : i.cut.second = i.second := by
    simp only [Time.Instant.second, Time.Instant.cut, Time.Instant.secondOfDay]
    omega
  have hfraction : i.cut.fraction / 1000 = i.fraction / 1000 := by
    simp only [Time.Instant.fraction, Time.Instant.cut]
    omega
  simp only [stamp, Time.Instant.stamp, Time.Instant.timeText, Time.Precision.fractionText,
    hsecond, hfraction]
  rfl

theorem Row.IsDated.createdAt {row : Row} (h : row.IsDated) {r : Record}
    (hr : row.record = .ok r) :
    ∃ i : Time.Instant, i.IsDatable ∧ row.createdAt = stamp i ∧ r.createdAt = i.cut := by
  rcases h with ⟨i, hi, hstamp⟩
  rcases Columns.record_eq_ok_iff.mp hr with ⟨_, createdAt, _, _, _, hcreated, _, _, rfl⟩
  rw [hstamp, readStamp_stamp 6 hi] at hcreated
  exact ⟨i, hi, hstamp, (Except.ok.inj hcreated).symm⟩

theorem Row.IsDated.stamp_createdAt {row : Row} (h : row.IsDated) {r : Record}
    (hr : row.record = .ok r) : stamp r.createdAt = row.createdAt := by
  rcases h.createdAt hr with ⟨i, _, hstamp, hcreated⟩
  rw [hcreated, stamp_cut, hstamp]

theorem Row.IsDated.createdAt_lt_iff {a b : Row} (ha : a.IsDated) (hb : b.IsDated)
    {r q : Record} (hr : a.record = .ok r) (hq : b.record = .ok q) :
    a.createdAt < b.createdAt ↔ r.createdAt.toNanos < q.createdAt.toNanos := by
  rcases ha.createdAt hr with ⟨i, hi, hstamp, hcreated⟩
  rcases hb.createdAt hq with ⟨j, hj, hstamp', hcreated'⟩
  rw [hstamp, hstamp', hcreated, hcreated']
  exact Time.Instant.stamp_lt_stamp_iff hi hj

theorem Row.createdAt_eq_of_eq {a b : Row} (h : a.createdAt = b.createdAt) {r q : Record}
    (hr : a.record = .ok r) (hq : b.record = .ok q) : r.createdAt = q.createdAt := by
  rcases Columns.record_eq_ok_iff.mp hr with ⟨_, i, _, _, _, hi, _, _, rfl⟩
  rcases Columns.record_eq_ok_iff.mp hq with ⟨_, j, _, _, _, hj, _, _, rfl⟩
  rw [h, hj] at hi
  exact (Except.ok.inj hi).symm

theorem Row.isDated_ofDraft {now : Time.Instant} (h : now.IsDatable) (d : Draft) :
    (ofDraft now d).IsDated :=
  ⟨now, h, rfl⟩

theorem Row.IsDated.change {row row' : Row} (h : row.IsDated) {now : Time.Instant}
    (hchange : row.Change now row') : row'.IsDated := by
  rcases h with ⟨i, hi, hstamp⟩
  exact ⟨i, hi, hchange.createdAt.trans hstamp⟩

namespace Ledger

section

variable {ops : List Entry} (hops : Time.AllDatable ops)

include hops

theorem isDated_run {row : Row} (hrow : row ∈ (empty.run ops).store.rows) :
    row.IsDated := by
  refine forall_row_run Row.isDated_ofDraft ?_ (Sound.of_no_units .empty) hops nofun
    (Store.row?_of_mem hrow)
  intro now _ before after hchange hbefore
  exact hbefore.change hchange

theorem exists_readsAs_run : ∃ f, (empty.run ops).store.ReadsAs f := by
  have hread : ∀ row, ∃ r, row ∈ (empty.run ops).store.rows → row.record = .ok r := by
    intro row
    by_cases hrow : row ∈ (empty.run ops).store.rows
    · rcases isWellFormed_run (Sound.of_no_units .empty) hops nofun
        (Store.row?_of_mem hrow) with ⟨r, hr, _⟩
      exact ⟨r, fun _ => hr⟩
    · exact ⟨Record.ofDraft ⟨0, 0⟩ ⟨"", none, "", 0⟩, fun h => absurd h hrow⟩
  choose f hf using hread
  exact ⟨f, hf⟩

end

/-!
# Older and newer
-/

/-- Of two records the one is older: it was created before the other one, or it was begun
before the other one at the same time.  The table, which has but the texts of the times
and its row numbers, says the same. -/
structure Older (ops : List Entry) (a b : Record) : Prop where
  begun : ∃ m n, StemsFrom ops m a ∧ StemsFrom ops n b ∧
    (a.createdAt.toNanos < b.createdAt.toNanos ∨ a.createdAt = b.createdAt ∧ m < n)
  numbered : stamp a.createdAt < stamp b.createdAt ∨
    stamp a.createdAt = stamp b.createdAt ∧
      rowNumber ops a.orderId < rowNumber ops b.orderId

theorem older_of_rows {ops : List Entry} (hops : Time.AllDatable ops) {f : Row → Record}
    (hf : (empty.run ops).store.ReadsAs f) {a b : Row}
    (ha : a ∈ (empty.run ops).store.rows) (hb : b ∈ (empty.run ops).store.rows)
    (h : a.createdAt < b.createdAt ∨
      a.createdAt = b.createdAt ∧ [a, b].Sublist (empty.run ops).store.rows) :
    Older ops (f a) (f b) := by
  have hadated := isDated_run hops ha
  have hbdated := isDated_run hops hb
  rcases exists_stemsFrom hops (hf.mem_iff.mp (List.mem_map_of_mem ha)) with ⟨m, hm⟩
  rcases exists_stemsFrom hops (hf.mem_iff.mp (List.mem_map_of_mem hb)) with ⟨n, hn⟩
  have hlt := hadated.createdAt_lt_iff hbdated (hf a ha) (hf b hb)
  rcases h with hstamp | ⟨hstamp, hsub⟩
  · refine ⟨⟨m, n, hm, hn, Or.inl (hlt.mp hstamp)⟩, Or.inl ?_⟩
    rw [hadated.stamp_createdAt (hf a ha), hbdated.stamp_createdAt (hf b hb)]
    exact hstamp
  · have hcreated := Row.createdAt_eq_of_eq hstamp (hf a ha) (hf b hb)
    have hids : [a.orderId, b.orderId].Sublist (empty.run ops).store.orderIds :=
      hsub.map (fun r : Row => r.orderId)
    refine ⟨⟨m, n, hm, hn, Or.inr ⟨hcreated, ?_⟩⟩, Or.inr ⟨congrArg stamp hcreated, ?_⟩⟩
    · rcases List.pairwise_iff_forall_sublist.mp (begun_run ops).2 hids with
        ⟨m', n', hm', hn', hbefore⟩
      rw [← hf.orderId ha] at hm'
      rw [← hf.orderId hb] at hn'
      rw [hm.1.unique hm', hn.1.unique hn']
      exact hbefore
    · rw [hf.orderId ha, hf.orderId hb]
      exact List.pairwise_iff_forall_sublist.mp (pairwise_rowNumber ops) hids

theorem pairwise_older {ops : List Entry} (hops : Time.AllDatable ops) {f : Row → Record}
    (hf : (empty.run ops).store.ReadsAs f) (p : Row → Bool) :
    ((Store.oldestFirst ((empty.run ops).store.rows.filter p)).map f).Pairwise
      (Older ops) := by
  rw [List.pairwise_map]
  apply (Store.pairwise_oldestFirst _).imp_of_mem
  intro a b ha hb hab
  rw [(Store.oldestFirst_perm _).mem_iff, List.mem_filter] at ha hb
  refine older_of_rows hops hf ha.1 hb.1 (hab.imp_right ?_)
  intro heq
  exact ⟨heq.1, heq.2.trans List.filter_sublist⟩

theorem Older.asymm {ops : List Entry} {a b : Record} (hab : Older ops a b)
    (hba : Older ops b a) : False := by
  rcases hab.begun with ⟨m, n, hm, hn, hab⟩
  rcases hba.begun with ⟨n', m', hn', hm', hba⟩
  rw [hn'.unique hn, hm'.unique hm] at hba
  rcases hab with hab | ⟨heq, hab⟩ <;> rcases hba with hba | ⟨heq', hba⟩
  · omega
  · rw [heq'] at hab
    omega
  · rw [heq] at hba
    omega
  · omega

/-- The list of the records with a property, the oldest first. -/
structure Ordered (ops : List Entry) (p : Record → Prop) (records : List Record) : Prop
    extends Store.Lists (empty.run ops).store p records where
  older : records.Pairwise (Older ops)

theorem Ordered.unique {ops : List Entry} {p : Record → Prop} {records records' : List Record}
    (h : Ordered ops p records) (h' : Ordered ops p records') : records = records' := by
  have hperm : records.Perm records' := by
    rw [List.perm_ext_iff_of_nodup h.nodup h'.nodup]
    intro r
    rw [h.mem_iff, h'.mem_iff]
  apply hperm.eq_of_pairwise _ h.older h'.older
  intro a b _ _ hab hba
  exact (hab.asymm hba).elim

theorem ordered_run {ops : List Entry} (hops : Time.AllDatable ops) {f : Row → Record}
    (hf : (empty.run ops).store.ReadsAs f) {p : Row → Bool} {q : Record → Bool}
    (h : ∀ row ∈ (empty.run ops).store.rows, p row = q (f row)) {P : Record → Prop}
    (hq : ∀ r, q r = true ↔ P r) :
    Ordered ops P
      ((Store.oldestFirst ((empty.run ops).store.rows.filter p)).map f) where
  toLists := hf.lists hq (Store.map_oldestFirst_perm h)
  older := pairwise_older hops hf p

theorem ordered_device {ops : List Entry} (hops : Time.AllDatable ops) {f : Row → Record}
    (hf : (empty.run ops).store.ReadsAs f) (device : String) :
    Ordered ops (fun r => r.device = device)
      ((Store.oldestFirst
        ((empty.run ops).store.rows.filter (fun r => r.device == device))).map f) :=
  ordered_run hops hf (q := fun r => r.device == device)
    (fun _ hrow => hf.device_beq hrow device) (fun _ => beq_iff_eq)

theorem ordered_status {ops : List Entry} (hops : Time.AllDatable ops) {f : Row → Record}
    (hf : (empty.run ops).store.ReadsAs f) (status : Status) :
    Ordered ops (fun r => r.status = status)
      ((Store.oldestFirst
        ((empty.run ops).store.rows.filter (fun r => r.status == status.name))).map f) :=
  ordered_run hops hf (q := fun r => r.status == status)
    (fun _ hrow => hf.status_beq hrow status) (fun _ => beq_iff_eq)

/-!
# Queries
-/

structure Queries (ops : List Entry) : Prop where
  byStatus : ∀ status, ∃ records, Ordered ops (fun r => r.status = status) records ∧
    (empty.run ops).store.listByStatus status = .ok records ∧
    (empty.run ops).store.countByStatus status none = records.length ∧
    ∀ device, (empty.run ops).store.countByStatus status (some device) =
      records.countP (fun r => r.device == device)
  byDevice : ∀ device, ∃ records, Ordered ops (fun r => r.device = device) records ∧
    ∀ limit : UInt64, records.length ≤ limit.toNat →
      (empty.run ops).store.listByDevice device limit 0 = .ok records.reverse
  total : ∃ records, (empty.run ops).store.Lists (fun _ => True) records ∧
    (Status.all.map (fun status => (empty.run ops).store.countByStatus status none)).sum =
      records.length

theorem queries_run {ops : List Entry} (hops : Time.AllDatable ops) : Queries ops := by
  rcases exists_readsAs_run hops with ⟨f, hf⟩
  constructor
  · intro status
    have hperm := Store.map_oldestFirst_perm (q := fun r => r.status == status)
      (fun _ hrow => hf.status_beq hrow status)
    refine ⟨_, ordered_status hops hf status, hf.mapM_oldestFirst _, ?_, ?_⟩
    · rw [hf.countByStatus_none, hperm.length_eq, List.countP_eq_length_filter]
    · intro device
      rw [hf.countByStatus_some, hperm.countP_eq, List.countP_filter]
      simp only [Bool.and_comm]
  · intro device
    refine ⟨_, ordered_device hops hf device, ?_⟩
    intro limit hlimit
    rw [hf.listByDevice_eq, Store.shown_zero (by rwa [List.length_reverse])]
  · refine ⟨(empty.run ops).store.rows.map f, ?_, ?_⟩
    · exact hf.lists (q := fun _ => true) (fun _ => by simp) (by simp)
    · simp only [hf.countByStatus_none]
      exact sum_countP_status _

/-- An order is begun, another one in the same microsecond, a third one comes and goes, and
the fourth one takes its place after the clock was set back. -/
def clockSetBack : List Entry :=
  [ ({ wall := 2000000, elapsed := 0 },
      .begin { orderId := "order-1", templateId := none, device := "agv-01", revision := 0 }),
    ({ wall := 2000400, elapsed := 1 },
      .begin { orderId := "order-2", templateId := none, device := "agv-02", revision := 0 }),
    ({ wall := 3000000, elapsed := 2 },
      .begin { orderId := "order-3", templateId := none, device := "agv-01", revision := 0 }),
    ({ wall := 3000000, elapsed := 3 }, .discard "order-3"),
    ({ wall := 1000000, elapsed := 4 },
      .begin { orderId := "order-4", templateId := none, device := "agv-01", revision := 0 }) ]

theorem queries_run_clockSetBack :
    ∃ records, Ordered clockSetBack (fun r => r.status = .created) records ∧
      (empty.run clockSetBack).store.listByStatus .created = .ok records ∧
      records.length = 3 ∧ rowNumber (clockSetBack.take 3) "order-3" = 3 ∧
      rowNumber clockSetBack "order-4" = 3 := by
  have hops : Time.AllDatable clockSetBack := by decide +kernel
  have hcount : (empty.run clockSetBack).store.countByStatus .created none = 3 := by
    decide +kernel
  rcases (queries_run hops).byStatus .created with ⟨records, hordered, hlist, hlength, _⟩
  rw [hcount] at hlength
  exact ⟨records, hordered, hlist, hlength.symm, by decide +kernel, by decide +kernel⟩

end Ledger
end Record
end FleetBridge
