import FleetBridge.Pending
import FleetBridge.Proofs.Lookup

/-!
# Looking up pending commands

The set of pending commands is seen through the command under each key.  What is
taken out of it is a list in which every key occurs once, and nothing else goes.
-/

namespace FleetBridge
namespace Pending

open Message

theorem find?_eq_some_iff {s : Pending} {key : String} {c : Command} :
    s.find? key = some c ↔ c ∈ s.commands ∧ c.key = key :=
  find?_key_eq_some_iff s.nodup

theorem key_of_find? {s : Pending} {key : String} {c : Command} (h : s.find? key = some c) :
    c.key = key :=
  (find?_eq_some_iff.mp h).2

theorem find?_filter (p : Command → Bool) (s : Pending) (key : String) :
    (s.filter p).find? key = (s.find? key).filter p :=
  find?_key_filter s.nodup p key

theorem find?_erase_self (key : String) (s : Pending) : (s.erase key).find? key = none := by
  rw [erase, find?_filter]
  cases h : s.find? key with
  | none => rfl
  | some c => simp [Option.filter, key_of_find? h]

theorem find?_erase_of_ne {key other : String} (h : other ≠ key) (s : Pending) :
    (s.erase key).find? other = s.find? other := by
  rw [erase, find?_filter]
  cases hfind : s.find? other with
  | none => rfl
  | some c => simp [Option.filter, key_of_find? hfind, h]

theorem find?_insert_self (c : Command) (s : Pending) : (s.insert c).find? c.key = some c := by
  apply find?_eq_some_iff.mpr
  exact ⟨List.mem_append_right _ (List.mem_singleton_self c), rfl⟩

theorem find?_insert_of_ne {c : Command} {key : String} (h : key ≠ c.key) (s : Pending) :
    (s.insert c).find? key = s.find? key := by
  have hc : (c.key == key) = false := by
    simpa using fun heq => h heq.symm
  have happend : (s.insert c).find? key = (s.erase c.key).find? key := by
    simp [insert, find?, List.find?_append, hc]
  rw [happend, find?_erase_of_ne h]

/-!
# Taking commands out
-/

theorem mem_takeWhere_iff {p : Command → Bool} {s : Pending} {c : Command} :
    c ∈ (s.takeWhere p).1 ↔ c ∈ s.commands ∧ p c = true := by
  simp [takeWhere, oldestFirst, List.mem_mergeSort]

theorem nodup_takeWhere (p : Command → Bool) (s : Pending) :
    ((s.takeWhere p).1.map Command.key).Nodup := by
  have hperm := List.mergeSort_perm (s.commands.filter p)
    (fun a b => decide (a.registered ≤ b.registered))
  apply ((hperm.map Command.key).nodup_iff).mpr
  exact s.nodup.sublist (List.filter_sublist.map Command.key)

theorem find?_takeWhere_of_mem {p : Command → Bool} {s : Pending} {c : Command}
    (h : c ∈ (s.takeWhere p).1) : (s.takeWhere p).2.find? c.key = none := by
  rcases mem_takeWhere_iff.mp h with ⟨hmem, hp⟩
  have hfind : s.find? c.key = some c := find?_eq_some_iff.mpr ⟨hmem, rfl⟩
  simp only [takeWhere]
  rw [find?_filter, hfind]
  simp [Option.filter, hp]

theorem find?_takeWhere_of_ne {p : Command → Bool} {s : Pending} {key : String}
    (h : ∀ c ∈ (s.takeWhere p).1, key ≠ c.key) :
    (s.takeWhere p).2.find? key = s.find? key := by
  simp only [takeWhere]
  rw [find?_filter]
  cases hfind : s.find? key with
  | none => rfl
  | some c =>
      rcases find?_eq_some_iff.mp hfind with ⟨hmem, rfl⟩
      have hp : p c = false := by
        rw [← Bool.not_eq_true]
        intro hp
        exact h c (mem_takeWhere_iff.mpr ⟨hmem, hp⟩) rfl
      simp [Option.filter, hp]

theorem pairwise_oldestFirst (cs : List Command) :
    (oldestFirst cs).Pairwise (fun c d => c.registered ≤ d.registered) := by
  have htrans : ∀ a b c : Command, decide (a.registered ≤ b.registered) = true →
      decide (b.registered ≤ c.registered) = true →
      decide (a.registered ≤ c.registered) = true := by
    intro a b c hab hbc
    exact decide_eq_true (Nat.le_trans (of_decide_eq_true hab) (of_decide_eq_true hbc))
  have htotal : ∀ a b : Command, (decide (a.registered ≤ b.registered) ||
      decide (b.registered ≤ a.registered)) = true := by
    intro a b
    simpa using Nat.le_total a.registered b.registered
  exact (List.pairwise_mergeSort htrans htotal cs).imp of_decide_eq_true

theorem takeWhere_of_forall_not {p : Command → Bool} {s : Pending}
    (h : ∀ c ∈ s.commands, p c = false) : s.takeWhere p = ([], s) := by
  rcases s with ⟨commands, hnodup⟩
  have hnone : commands.filter p = [] := by
    apply List.filter_eq_nil_iff.mpr
    intro c hc
    rw [h c hc]
    exact Bool.false_ne_true
  have hall : commands.filter (fun c => !p c) = commands := by
    apply List.filter_eq_self.mpr
    intro c hc
    rw [h c hc]
    rfl
  simp only [takeWhere, filter, hnone, hall, oldestFirst, List.mergeSort_nil]

theorem Command.command_of_settle? {state : State} {c : Command} {d : Settlement}
    (h : c.settle? state = some d) : d.command = c := by
  unfold settle? at h
  cases hdevice : c.device == state.serialNumber with
  | false => simp [hdevice] at h
  | true =>
      cases hverdict : c.verdict state with
      | inProgress => simp [hdevice, hverdict] at h
      | success =>
          simp [hdevice, hverdict] at h
          rw [← h]
      | failure =>
          simp [hdevice, hverdict] at h
          rw [← h]

theorem mem_correlate_iff {state : State} {s : Pending} {d : Settlement} :
    d ∈ (s.correlate state).1 ↔ d.command ∈ s.commands ∧ d.command.settle? state = some d := by
  simp only [correlate, List.mem_filterMap]
  constructor
  · intro h
    rcases h with ⟨c, hc, hd⟩
    rw [Command.command_of_settle? hd]
    exact ⟨hc, hd⟩
  · intro h
    exact ⟨d.command, h⟩

theorem map_command_correlate (state : State) (s : Pending) :
    (s.correlate state).1.map Settlement.command =
      s.commands.filter (fun c => (c.settle? state).isSome) := by
  simp only [correlate]
  induction s.commands with
  | nil => rfl
  | cons c rest ih =>
      cases hc : c.settle? state with
      | none => simp [hc, ih]
      | some d => simp [hc, ih, Command.command_of_settle? hc]

theorem nodup_correlate (state : State) (s : Pending) :
    ((s.correlate state).1.map (fun d => d.command.key)).Nodup := by
  have hkeys : (s.correlate state).1.map (fun d => d.command.key) =
      ((s.correlate state).1.map Settlement.command).map Command.key := by
    rw [List.map_map]
    rfl
  rw [hkeys, map_command_correlate]
  exact s.nodup.sublist (List.filter_sublist.map Command.key)

theorem find?_of_mem_correlate {state : State} {s : Pending} {d : Settlement}
    (h : d ∈ (s.correlate state).1) :
    s.find? d.command.key = some d.command ∧ d.command.settle? state = some d := by
  rcases mem_correlate_iff.mp h with ⟨hmem, hsettle⟩
  exact ⟨find?_eq_some_iff.mpr ⟨hmem, rfl⟩, hsettle⟩

theorem mem_correlate_of_find? {state : State} {s : Pending} {key : String} {c : Command}
    {d : Settlement} (hfind : s.find? key = some c) (h : c.settle? state = some d) :
    d ∈ (s.correlate state).1 ∧ key = d.command.key := by
  rcases find?_eq_some_iff.mp hfind with ⟨hmem, rfl⟩
  have hcommand := Command.command_of_settle? h
  subst hcommand
  exact ⟨mem_correlate_iff.mpr ⟨hmem, h⟩, rfl⟩

theorem find?_correlate_of_mem {state : State} {s : Pending} {d : Settlement}
    (h : d ∈ (s.correlate state).1) : (s.correlate state).2.find? d.command.key = none := by
  rcases find?_of_mem_correlate h with ⟨hfind, hsettle⟩
  simp only [correlate]
  rw [find?_filter, hfind]
  simp [Option.filter, hsettle]

theorem find?_correlate_of_ne {state : State} {s : Pending} {key : String}
    (h : ∀ d ∈ (s.correlate state).1, key ≠ d.command.key) :
    (s.correlate state).2.find? key = s.find? key := by
  simp only [correlate]
  rw [find?_filter]
  cases hfind : s.find? key with
  | none => rfl
  | some c =>
      cases hsettle : c.settle? state with
      | none => simp [Option.filter, hsettle]
      | some d =>
          rcases mem_correlate_of_find? hfind hsettle with ⟨hmem, hkey⟩
          exact absurd hkey (h d hmem)

/-!
# What remains
-/

theorem not_mem_of_eq_empty {s : Pending} (h : s = .empty) (c : Command) :
    c ∉ s.commands := by
  rw [h]
  exact List.not_mem_nil

theorem ext_commands {s t : Pending} (h : s.commands = t.commands) : s = t := by
  cases s
  cases t
  cases h
  rfl

theorem filter_comm (p q : Command → Bool) (s : Pending) :
    (s.filter p).filter q = (s.filter q).filter p := by
  apply ext_commands
  simp only [filter, List.filter_filter, Bool.and_comm]

end Pending
end FleetBridge
