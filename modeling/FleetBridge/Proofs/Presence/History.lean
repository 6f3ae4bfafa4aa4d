import FleetBridge.Proofs.Bridge.Redelivery
import Mathlib.Data.List.Induction

/-!
# The latest word on each robot

A tracker takes in messages of any robots, one after the other.  Two things are kept of each
robot, and messages bear on them differently: whether it is there is what the last state or
connection says, and its maker is the last one that was named.  A robot that goes away names
nobody, and a factsheet leaves it where it is.
-/

namespace FleetBridge

namespace Bridge.Telemetry

open Message

def flag? (device : String) : Telemetry → Option Bool
  | state s => if s.serialNumber = device then some true else none
  | connection c => if c.serialNumber = device then some (decide (c.status = .online)) else none
  | factsheet _ => none

def maker? (device : String) : Telemetry → Option String
  | state s =>
      if s.serialNumber = device ∧ s.manufacturer ≠ "" then some s.manufacturer else none
  | connection c =>
      if c.serialNumber = device ∧ c.status = .online ∧ c.manufacturer ≠ "" then
        some c.manufacturer
      else none
  | factsheet f =>
      match f.document.member? "manufacturer" with
      | some (.string maker) => if f.device = device ∧ maker ≠ "" then some maker else none
      | _ => none

section

variable {α : Type} {word : Telemetry → Option α} {a : α}

/-- The last of the messages that say anything says `a`. -/
def Latest (word : Telemetry → Option α) (a : α) (ms : List Telemetry) : Prop :=
  ∃ before m after, ms = before ++ m :: after ∧ word m = some a ∧
    ∀ later ∈ after, word later = none

theorem not_latest_nil : ¬ Latest word a [] := by
  rintro ⟨before, m, after, hms, _⟩
  exact absurd hms.symm (List.append_ne_nil_of_right_ne_nil before (List.cons_ne_nil m after))

theorem latest_concat_iff {ms : List Telemetry} {m : Telemetry} :
    Latest word a (ms ++ [m]) ↔ word m = some a ∨ word m = none ∧ Latest word a ms := by
  constructor
  · rintro ⟨before, last, after, hms, hword, hsilent⟩
    rcases List.eq_nil_or_concat after with rfl | ⟨after, final, rfl⟩
    · rcases List.append_inj' hms rfl with ⟨_, hlast⟩
      cases hlast
      exact Or.inl hword
    · rw [List.concat_eq_append] at hms hsilent
      have hsplit : ms ++ [m] = (before ++ last :: after) ++ [final] := by
        rw [hms, List.append_assoc, List.cons_append]
      rcases List.append_inj' hsplit rfl with ⟨hbefore, hfinal⟩
      cases hfinal
      rw [List.forall_mem_append, List.forall_mem_singleton] at hsilent
      exact Or.inr ⟨hsilent.2, before, last, after, hbefore, hword, hsilent.1⟩
  · rintro (hword | ⟨hsilent, before, last, after, rfl, hword, hafter⟩)
    · exact ⟨ms, m, [], rfl, hword, fun _ hmem => absurd hmem List.not_mem_nil⟩
    · refine ⟨before, last, after ++ [m], by rw [List.append_assoc, List.cons_append], hword, ?_⟩
      rw [List.forall_mem_append, List.forall_mem_singleton]
      exact ⟨hafter, hsilent⟩

theorem not_latest_iff {ms : List Telemetry} :
    (∀ a, ¬ Latest word a ms) ↔ ∀ m ∈ ms, word m = none := by
  induction ms using List.reverseRecOn with
  | nil => exact iff_of_true (fun _ => not_latest_nil) (fun _ hm => absurd hm List.not_mem_nil)
  | append_singleton ms m ih =>
      rw [List.forall_mem_append, List.forall_mem_singleton, ← ih]
      constructor
      · intro hnot
        have hsilent : word m = none := by
          rw [Option.eq_none_iff_forall_ne_some]
          exact fun a ha => hnot a (latest_concat_iff.mpr (Or.inl ha))
        exact ⟨fun a ha => hnot a (latest_concat_iff.mpr (Or.inr ⟨hsilent, ha⟩)), hsilent⟩
      · rintro ⟨hnot, hsilent⟩ a ha
        rcases latest_concat_iff.mp ha with hword | ⟨_, hlatest⟩
        · rw [hsilent] at hword
          cases hword
        · exact hnot a hlatest

end

end Bridge.Telemetry

namespace Presence

open Message
open Bridge (Telemetry)
open Bridge.Telemetry

def run (ms : List (Time.Moment × Telemetry)) (p : Presence) : Presence :=
  ms.foldl (fun p e => e.2.seen e.1 p) p

theorem run_append_singleton (ms : List (Time.Moment × Telemetry)) (e : Time.Moment × Telemetry)
    (p : Presence) : p.run (ms ++ [e]) = e.2.seen e.1 (p.run ms) :=
  List.foldl_append

theorem fallback_run (ms : List (Time.Moment × Telemetry)) (p : Presence) :
    (p.run ms).fallback = p.fallback := by
  induction ms using List.reverseRecOn with
  | nil => rfl
  | append_singleton ms e ih => rw [run_append_singleton, fallback_seen, ih]

/-- What every message overwrites with what it says is what was said last. -/
theorem run_iff_latest {α : Type} {word : Telemetry → Option α} {a : α} (Kept : Presence → Prop)
    {fallback : String} (hfresh : ¬ Kept (.of fallback))
    (hseen : ∀ now m p, Kept (m.seen now p) ↔ word m = some a ∨ word m = none ∧ Kept p)
    (ms : List (Time.Moment × Telemetry)) :
    Kept ((Presence.of fallback).run ms) ↔ Latest word a (ms.map Prod.snd) := by
  induction ms using List.reverseRecOn with
  | nil => exact iff_of_false hfresh not_latest_nil
  | append_singleton ms e ih =>
      rw [run_append_singleton, hseen, List.map_append, List.map_singleton, latest_concat_iff, ih]

theorem observeConnection_of_online {c : Connection} (h : c.status = .online)
    (now : Time.Instant) (p : Presence) :
    p.observeConnection now c = p.setOnline now c.serialNumber (some c.manufacturer) := by
  unfold observeConnection
  rw [h]
  rfl

theorem observeConnection_of_absent {c : Connection} (h : c.status ≠ .online)
    (now : Time.Instant) (p : Presence) :
    p.observeConnection now c = p.setOffline now c.serialNumber := by
  have habsent : ¬ c.status.isOnline = true := mt beq_iff_eq.mp h
  rw [observeConnection, if_neg habsent]

/-!
# Whether a robot is there
-/

theorem isOnline_seen (now : Time.Moment) (m : Telemetry) (p : Presence) (device : String) :
    (m.seen now p).isOnline device = (m.flag? device).getD (p.isOnline device) := by
  cases m with
  | state s =>
      by_cases hdevice : s.serialNumber = device
      · subst hdevice
        simp only [flag?, if_true, Option.getD_some]
        exact isOnline_setOnline_self _ _ _ p
      · simp only [flag?, hdevice, if_false, Option.getD_none]
        exact isOnline_setOnline_of_ne (Ne.symm hdevice) _ _ p
  | connection c =>
      by_cases hstatus : c.status = .online
      · simp only [seen, observeConnection_of_online hstatus]
        by_cases hdevice : c.serialNumber = device
        · subst hdevice
          simp only [flag?, hstatus, if_true, Option.getD_some, decide_true]
          exact isOnline_setOnline_self _ _ _ p
        · simp only [flag?, hdevice, if_false, Option.getD_none]
          exact isOnline_setOnline_of_ne (Ne.symm hdevice) _ _ p
      · simp only [seen, observeConnection_of_absent hstatus]
        by_cases hdevice : c.serialNumber = device
        · subst hdevice
          simp only [flag?, hstatus, if_true, Option.getD_some, decide_false]
          exact isOnline_setOffline_self _ _ p
        · simp only [flag?, hdevice, if_false, Option.getD_none]
          exact isOnline_setOffline_of_ne (Ne.symm hdevice) _ p
  | factsheet f => exact isOnline_observeFactsheet _ _ _ p device

/-!
# Who made it
-/

def known? (device : String) (p : Presence) : Option String :=
  (p.devices.find? device).bind Entry.manufacturer

theorem known?_setOnline_self (now : Time.Instant) (device : String)
    (manufacturer : Option String) (p : Presence) :
    (p.setOnline now device manufacturer).known? device =
      (manufacturer.bind named?).or (p.known? device) := by
  simp only [known?, setOnline, Keyed.find?_insert_self]
  rfl

theorem known?_setOnline_of_ne {device other : String} (h : other ≠ device)
    (now : Time.Instant) (manufacturer : Option String) (p : Presence) :
    (p.setOnline now device manufacturer).known? other = p.known? other := by
  simp only [known?, setOnline, Keyed.find?_insert_of_ne h]

theorem known?_setOffline (now : Time.Instant) (device : String) (p : Presence)
    (other : String) : (p.setOffline now device).known? other = p.known? other := by
  unfold setOffline
  split
  · by_cases h : other = device
    · subst h
      simp only [known?, Keyed.find?_modify_self]
      cases p.devices.find? other <;> rfl
    · simp only [known?, Keyed.find?_modify_of_ne h]
  · rfl

theorem known?_observeFactsheet_self (now : Time.Instant) (device : String)
    (document : Json.Value) (p : Presence) :
    (p.observeFactsheet now device document).known? device =
      (makerIn? document).or (p.known? device) := by
  unfold observeFactsheet
  cases makerIn? document with
  | none => rfl
  | some maker =>
      simp only [known?, Keyed.find?_insert_self]
      rfl

theorem known?_observeFactsheet_of_ne {device other : String} (h : other ≠ device)
    (now : Time.Instant) (document : Json.Value) (p : Presence) :
    (p.observeFactsheet now device document).known? other = p.known? other := by
  unfold observeFactsheet
  cases makerIn? document with
  | none => rfl
  | some maker => simp only [known?, Keyed.find?_insert_of_ne h]

theorem named?_eq (name : String) : named? name = if name ≠ "" then some name else none := by
  unfold named?
  by_cases hempty : name = ""
  · subst hempty
    rfl
  · rw [if_neg (mt String.isEmpty_iff.mp hempty), if_pos hempty]

theorem makerIn?_eq (document : Json.Value) :
    makerIn? document =
      match document.member? "manufacturer" with
      | some (.string maker) => if maker ≠ "" then some maker else none
      | _ => none := by
  unfold makerIn?
  cases document.member? "manufacturer" with
  | none => rfl
  | some v =>
      cases v with
      | string maker => exact named?_eq maker
      | _ => rfl

theorem known?_seen (now : Time.Moment) (m : Telemetry) (p : Presence) (device : String) :
    (m.seen now p).known? device = (m.maker? device).or (p.known? device) := by
  cases m with
  | state s =>
      simp only [seen, observeState, maker?]
      by_cases hdevice : s.serialNumber = device
      · subst hdevice
        simp only [known?_setOnline_self, Option.bind_some, named?_eq, true_and]
      · simp only [known?_setOnline_of_ne (Ne.symm hdevice), hdevice, false_and, if_false,
          Option.none_or]
  | connection c =>
      simp only [seen, maker?]
      by_cases hstatus : c.status = .online
      · rw [observeConnection_of_online hstatus]
        by_cases hdevice : c.serialNumber = device
        · subst hdevice
          simp only [known?_setOnline_self, Option.bind_some, named?_eq, hstatus, true_and]
        · simp only [known?_setOnline_of_ne (Ne.symm hdevice), hdevice, false_and, if_false,
            Option.none_or]
      · rw [observeConnection_of_absent hstatus, known?_setOffline]
        simp only [hstatus, false_and, and_false, if_false, Option.none_or]
  | factsheet f =>
      simp only [seen, maker?]
      by_cases hdevice : f.device = device
      · subst hdevice
        simp only [known?_observeFactsheet_self, makerIn?_eq, true_and]
      · simp only [known?_observeFactsheet_of_ne (Ne.symm hdevice), hdevice, false_and, if_false]
        split <;> rfl

theorem known?_run_iff (fallback : String) (ms : List (Time.Moment × Telemetry))
    (device maker : String) :
    ((Presence.of fallback).run ms).known? device = some maker ↔
      Latest (maker? device) maker (ms.map Prod.snd) := by
  refine run_iff_latest (fun p => p.known? device = some maker) nofun ?_ ms
  intro now m p
  rw [known?_seen, Option.or_eq_some_iff]

/-!
# The robots that are there
-/

theorem mem_online_iff (p : Presence) (device : String) :
    device ∈ p.online ↔ p.isOnline device = true := by
  have hkeys : device ∈ (p.devices.filter (fun _ e => e.online)).keys ↔
      (p.devices.filter (fun _ e => e.online)).find? device ≠ none := by
    rw [ne_eq, Keyed.find?_eq_none_iff, not_not]
  rw [online, List.mem_mergeSort, hkeys, Keyed.find?_filter, isOnline]
  cases p.devices.find? device with
  | none => simp
  | some e => cases e.online <;> simp [Option.filter]

theorem pairwise_online (p : Presence) : p.online.Pairwise (· < ·) := by
  have hkeys : (p.devices.filter (fun _ e => e.online)).keys.Nodup := Keyed.nodup _
  have hnodup : p.online.Nodup := (List.mergeSort_perm _ _).nodup_iff.mpr hkeys
  have htrans : ∀ a b c : String, (!decide (b < a)) = true → (!decide (c < b)) = true →
      (!decide (c < a)) = true := by
    simp only [Bool.not_eq_true', decide_eq_false_iff_not, String.not_lt]
    exact fun _ _ _ => String.le_trans
  have htotal : ∀ a b : String, (!decide (b < a) || !decide (a < b)) = true := by
    simp only [Bool.or_eq_true, Bool.not_eq_true', decide_eq_false_iff_not, String.not_lt]
    exact String.le_total
  have hsorted := List.pairwise_mergeSort htrans htotal
    (p.devices.filter (fun _ e => e.online)).keys
  refine (hsorted.and hnodup).imp ?_
  rintro a b ⟨hle, hne⟩
  rw [Bool.not_eq_true', decide_eq_false_iff_not] at hle
  by_cases hlt : a < b
  · exact hlt
  · exact absurd (String.le_antisymm (String.not_lt.mp hle) (String.not_lt.mp hlt)) hne

/-!
# What a tracker knows
-/

/-- Of each robot a tracker that was told of messages knows the latest word. -/
structure Recounts (fallback : String) (ms : List Telemetry) (p : Presence) : Prop where
  isOnline_iff : ∀ device, p.isOnline device = true ↔ Latest (flag? device) true ms
  manufacturer_iff : ∀ device maker, p.manufacturer device = maker ↔
    Latest (maker? device) maker ms ∨ (∀ m ∈ ms, m.maker? device = none) ∧ maker = fallback
  mem_online_iff : ∀ device, device ∈ p.online ↔ p.isOnline device = true
  pairwise_online : p.online.Pairwise (· < ·)

/-- Whatever messages come in whatever order, what is known of each robot is what was last
said of it. -/
theorem recounts_run (fallback : String) (ms : List (Time.Moment × Telemetry)) :
    Recounts fallback (ms.map Prod.snd) ((Presence.of fallback).run ms) where
  isOnline_iff := by
    intro device
    refine run_iff_latest (fun p => p.isOnline device = true) nofun ?_ ms
    intro now m p
    rw [isOnline_seen]
    cases m.flag? device <;> simp
  manufacturer_iff := by
    intro device maker
    have hmaker : ((Presence.of fallback).run ms).manufacturer device =
        (((Presence.of fallback).run ms).known? device).getD fallback :=
      congrArg (Option.getD _) (fallback_run ms (.of fallback))
    rw [hmaker, ← not_latest_iff]
    simp only [← known?_run_iff fallback ms device]
    cases ((Presence.of fallback).run ms).known? device with
    | none => simp [eq_comm]
    | some named => simp
  mem_online_iff := mem_online_iff _
  pairwise_online := pairwise_online _

end Presence
end FleetBridge
