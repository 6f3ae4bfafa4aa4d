import FleetBridge.Proofs.Record.Listing
import Mathlib.Data.List.TakeDrop

/-!
# Pages of records

A page is exact if it shows the records of a robot, newest first, from behind the offset and
up to the limit.  Both numbers are read as signed ones on their way to the table, so an
offset of `2 ^ 63` or more is taken for none, and the page starts over with the newest
record.  A limit of that size is taken for none too, which is no fault as long as there are
not as many rows.
-/

namespace FleetBridge
namespace Record

namespace Store

variable {α : Type}

theorem not_mem_drop_of_nodup {x : α} {xs : List α} (h : (x :: xs).Nodup) {n : Nat}
    (hn : 0 < n) : x ∉ (x :: xs).drop n := by
  cases n with
  | zero => exact absurd hn (Nat.lt_irrefl 0)
  | succ n =>
      rw [List.drop_succ_cons]
      intro hmem
      exact (List.nodup_cons.mp h).1 (List.mem_of_mem_drop hmem)

theorem head_mem_shown {limit offset : UInt64} (hoffset : ¬ offset.toNat < 2 ^ 63)
    (hlimit : limit ≠ 0) (x : α) (xs : List α) : x ∈ shown limit offset (x :: xs) := by
  have hpos : 0 < limit.toNat :=
    Nat.pos_of_ne_zero (fun hzero => hlimit (UInt64.toNat_inj.mp hzero))
  simp only [shown, if_neg hoffset, List.drop_zero]
  split
  · cases hn : limit.toNat with
    | zero => omega
    | succ n => exact List.mem_cons_self
  · exact List.mem_cons_self

theorem shown_eq_iff_of_lt {limit offset : UInt64} (hoffset : offset.toNat < 2 ^ 63)
    (xs : List α) :
    shown limit offset xs = (xs.drop offset.toNat).take limit.toNat ↔
      limit.toNat < 2 ^ 63 ∨ xs.length ≤ offset.toNat + limit.toNat := by
  simp only [shown, if_pos hoffset]
  by_cases hlimit : limit.toNat < 2 ^ 63
  · rw [if_pos hlimit]
    exact iff_of_true rfl (Or.inl hlimit)
  · rw [if_neg hlimit, List.take_self_eq_iff, List.length_drop]
    omega

theorem shown_eq_iff_of_le {limit offset : UInt64} (hoffset : ¬ offset.toNat < 2 ^ 63)
    {xs : List α} (h : xs.Nodup) :
    shown limit offset xs = (xs.drop offset.toNat).take limit.toNat ↔
      limit = 0 ∨ xs.length = 0 := by
  constructor
  · intro heq
    by_cases hlimit : limit = 0
    · exact Or.inl hlimit
    · -- The newest record would stand behind the offset as well.
      cases xs with
      | nil => exact Or.inr rfl
      | cons x xs =>
          have hmem := head_mem_shown hoffset hlimit x xs
          rw [heq] at hmem
          exact absurd (List.mem_of_mem_take hmem) (not_mem_drop_of_nodup h (by omega))
  · intro hcase
    rcases hcase with rfl | hempty
    · simp [shown]
    · rw [List.eq_nil_of_length_eq_zero hempty]
      simp [shown]

theorem shown_eq_iff {xs : List α} (h : xs.Nodup) (limit offset : UInt64) :
    shown limit offset xs = (xs.drop offset.toNat).take limit.toNat ↔
      (offset.toNat < 2 ^ 63 ∧
        (limit.toNat < 2 ^ 63 ∨ xs.length ≤ offset.toNat + limit.toNat)) ∨
      limit = 0 ∨ xs.length = 0 := by
  by_cases hoffset : offset.toNat < 2 ^ 63
  · rw [shown_eq_iff_of_lt hoffset]
    constructor
    · intro hshown
      exact Or.inl ⟨hoffset, hshown⟩
    · intro hcase
      rcases hcase with ⟨_, hshown⟩ | rfl | hempty
      · exact hshown
      · exact Or.inl (by decide)
      · omega
  · rw [shown_eq_iff_of_le hoffset h]
    constructor
    · exact Or.inr
    · intro hcase
      rcases hcase with ⟨hsmall, _⟩ | hnothing
      · exact absurd hsmall hoffset
      · exact hnothing

end Store

namespace Ledger

def rowsOf (ops : List Entry) (device : String) : Nat :=
  (empty.run ops).store.rows.countP (fun r => r.device == device)

/-- The page shows the records of the robot, the newest first, without the first `offset`
of them, and of the rest at most `limit`. -/
def Paged (ops : List Entry) (device : String) (limit offset : UInt64) : Prop :=
  ∃ records, Ordered ops (fun r => r.device = device) records ∧
    (empty.run ops).store.listByDevice device limit offset =
      .ok ((records.reverse.drop offset.toNat).take limit.toNat)

/-- What a page shows is settled by the one list of the robot's records. -/
theorem exists_paged_iff_shown {ops : List Entry} (hops : Time.AllDatable ops)
    (device : String) :
    ∃ newest : List Record, newest.Nodup ∧ newest.length = rowsOf ops device ∧
      ∀ limit offset, Paged ops device limit offset ↔
        Store.shown limit offset newest = (newest.drop offset.toNat).take limit.toNat := by
  rcases exists_readsAs_run hops with ⟨f, hf⟩
  have hordered := ordered_device hops hf device
  refine ⟨_, List.nodup_reverse.mpr hordered.nodup, ?_, ?_⟩
  · rw [List.length_reverse, List.length_map, (Store.oldestFirst_perm _).length_eq, rowsOf,
      List.countP_eq_length_filter]
  · intro limit offset
    rw [Paged, hf.listByDevice_eq]
    constructor
    · intro h
      rcases h with ⟨records, hrecords, heq⟩
      rw [hrecords.unique hordered] at heq
      exact Except.ok.inj heq
    · intro heq
      exact ⟨_, hordered, congrArg Except.ok heq⟩

/-- A page is exact if its offset is below `2 ^ 63`, and otherwise only if there is nothing
to show at all. -/
theorem paged_iff {ops : List Entry} (hops : Time.AllDatable ops) (device : String)
    (limit offset : UInt64) :
    Paged ops device limit offset ↔
      (offset.toNat < 2 ^ 63 ∧
        (limit.toNat < 2 ^ 63 ∨ rowsOf ops device ≤ offset.toNat + limit.toNat)) ∨
      limit = 0 ∨ rowsOf ops device = 0 := by
  rcases exists_paged_iff_shown hops device with ⟨newest, hnodup, hlength, hpaged⟩
  rw [hpaged, Store.shown_eq_iff hnodup, hlength]

def twoOrders : List Entry :=
  [ ({ wall := 0, elapsed := 0 },
      .begin { orderId := "raw-1", templateId := none, device := "agv-01", revision := 0 }),
    ({ wall := 1000000, elapsed := 1000000 },
      .begin { orderId := "raw-2", templateId := none, device := "agv-01", revision := 0 }) ]

theorem paged_iff_twoOrders :
    Paged twoOrders "agv-01" 1 1 ∧ Paged twoOrders "agv-01" 10 9223372036854775807 ∧
      Paged twoOrders "agv-01" 18446744073709551615 1 := by
  have hops : Time.AllDatable twoOrders := by decide +kernel
  refine ⟨?_, ?_, ?_⟩ <;> rw [paged_iff hops] <;> decide +kernel

/-- An offset far behind the end shows the newest record again. -/
theorem not_paged_twoOrders : ¬ Paged twoOrders "agv-01" 10 9223372036854775808 := by
  have hops : Time.AllDatable twoOrders := by decide +kernel
  rcases exists_paged_iff_shown hops "agv-01" with ⟨newest, hnodup, hlength, hpaged⟩
  rw [hpaged, Store.shown_eq_iff hnodup, hlength]
  decide +kernel

end Ledger
end Record
end FleetBridge
