import FleetBridge.Proofs.StatusCache
import Mathlib.Data.List.Induction

/-!
# The history of a cache

Whoever holds a cache may observe, update and purge at any time; a run is any sequence of
such calls, each at a time of its own.  `transit` says once what a call can do to the entry
of a key.  The life of an entry begins with the call that makes it and ends with the purge
that removes it; what the entry says is what was passed on in its life.
-/

namespace FleetBridge
namespace StatusCache

variable {σ : Type}

inductive Call (σ : Type) where
  /-- A status is observed, and `agreed` is what whoever is asked says to it. -/
  | check (key : String) (status : σ) (agreed : Bool)
  | update (key : String) (status : σ)
  | purge
  /-- Keys that a purge has collected some time ago are removed. -/
  | sweep (keys : List String)

section

variable [DecidableEq σ]

def observe (agreed : Bool) (key : String) (status : σ) (now : Nat) (c : StatusCache σ) :
    Bool × StatusCache σ :=
  let (accepted, _, c) := c.checkWith (fun r : Unit => (agreed, r)) key status now ()
  (accepted, c)

theorem check_eq_observe (key : String) (status : σ) (now : Nat) (c : StatusCache σ) :
    c.check key status now = c.observe true key status now :=
  rfl

theorem observe_eq (agreed : Bool) (key : String) (status : σ) (now : Nat)
    (c : StatusCache σ) :
    c.observe agreed key status now =
      if c.isDue key status now = true ∧ agreed = true then (true, c.update key status now)
      else (false, c.refresh key now) := by
  simp only [observe, checkWith_eq]
  cases c.isDue key status now <;> cases agreed <;> rfl

def step (now : Nat) (call : Call σ) (c : StatusCache σ) : StatusCache σ :=
  match call with
  | .check key status agreed => (c.observe agreed key status now).2
  | .update key status => c.update key status now
  | .purge => (c.purge now).2
  | .sweep keys => (c.removeStale keys now).2

def run (calls : List (Nat × Call σ)) (c : StatusCache σ) : StatusCache σ :=
  calls.foldl (fun c e => c.step e.1 e.2) c

theorem run_append (before after : List (Nat × Call σ)) (c : StatusCache σ) :
    c.run (before ++ after) = (c.run before).run after :=
  List.foldl_append

theorem run_append_singleton (calls : List (Nat × Call σ)) (e : Nat × Call σ)
    (c : StatusCache σ) : c.run (calls ++ [e]) = (c.run calls).step e.1 e.2 :=
  c.run_append calls [e]

def passes? (key : String) (now : Nat) (call : Call σ) (c : StatusCache σ) : Option σ :=
  match call with
  | .check other status agreed =>
      if (c.observe agreed other status now).1 = true ∧ other = key then some status else none
  | .update other status => if other = key then some status else none
  | .purge => none
  | .sweep _ => none

end

/-!
# One call, one entry
-/

/-- What a call can do to the entry of a key, given the status that it passes on. -/
inductive Transit (ttl now : Nat) :
    Option σ → Option (Entry σ) → Option (Entry σ) → Prop where
  | passed (status : σ) (before : Option (Entry σ)) :
      Transit ttl now (some status) before
        (some { status, lastObserved := now, lastSent := now,
                updates := (before.map Entry.updates).getD 0 + 1 })
  | kept (before : Option (Entry σ)) : Transit ttl now none before before
  | seen (e : Entry σ) :
      Transit ttl now none (some e) (some { e with lastObserved := now })
  | removed (e : Entry σ) (h : ttl < now - e.lastObserved) : Transit ttl now none (some e) none

theorem Transit.of_update (ttl now : Nat) (key other : String) (status : σ)
    (c : StatusCache σ) :
    Transit ttl now (if other = key then some status else none) (c.entries.find? key)
      ((c.update other status now).entries.find? key) := by
  rw [find?_update]
  by_cases h : other = key
  · subst h
    rw [if_pos rfl, if_pos rfl]
    exact Transit.passed status _
  · rw [if_neg h, if_neg (Ne.symm h)]
    exact Transit.kept _

theorem Transit.of_refresh (ttl now : Nat) (key other : String) (c : StatusCache σ) :
    Transit ttl now none (c.entries.find? key) ((c.refresh other now).entries.find? key) := by
  rw [find?_refresh]
  split
  · subst key
    cases c.entries.find? other with
    | none => exact Transit.kept none
    | some e => exact Transit.seen e
  · exact Transit.kept _

theorem Transit.of_removeStale (now : Nat) (key : String) (keys : List String)
    (c : StatusCache σ) :
    Transit c.ttl now none (c.entries.find? key)
      ((c.removeStale keys now).2.entries.find? key) := by
  rw [find?_removeStale]
  cases c.entries.find? key with
  | none => exact Transit.kept none
  | some e =>
      rw [Option.filter_some]
      split
      · exact Transit.kept _
      · rename_i h
        rw [Bool.not_eq_true, Bool.not_eq_false', Bool.and_eq_true] at h
        exact Transit.removed e (of_decide_eq_true h.2)

theorem transit [DecidableEq σ] (key : String) (now : Nat) (call : Call σ)
    (c : StatusCache σ) :
    Transit c.ttl now (c.passes? key now call) (c.entries.find? key)
      ((c.step now call).entries.find? key) := by
  cases call with
  | check other status agreed =>
      simp only [passes?, step, observe_eq]
      by_cases h : c.isDue other status now = true ∧ agreed = true
      · simp only [if_pos h, true_and]
        exact Transit.of_update c.ttl now key other status c
      · simp only [if_neg h, Bool.false_eq_true, false_and, if_false]
        exact Transit.of_refresh c.ttl now key other c
  | update other status => exact Transit.of_update c.ttl now key other status c
  | purge => exact Transit.of_removeStale now key _ c
  | sweep keys => exact Transit.of_removeStale now key keys c

section

variable [DecidableEq σ]

theorem settings_step (now : Nat) (call : Call σ) (c : StatusCache σ) :
    (c.step now call).heartbeat = c.heartbeat ∧ (c.step now call).ttl = c.ttl := by
  cases call with
  | check key status agreed =>
      simp only [step, observe_eq]
      split <;> exact ⟨rfl, rfl⟩
  | update key status => exact ⟨rfl, rfl⟩
  | purge => exact ⟨rfl, rfl⟩
  | sweep keys => exact ⟨rfl, rfl⟩

theorem settings_run (calls : List (Nat × Call σ)) (c : StatusCache σ) :
    (c.run calls).heartbeat = c.heartbeat ∧ (c.run calls).ttl = c.ttl := by
  induction calls generalizing c with
  | nil => exact ⟨rfl, rfl⟩
  | cons e calls ih =>
      rcases ih (c.step e.1 e.2) with ⟨hheartbeat, httl⟩
      rcases settings_step e.1 e.2 c with ⟨hheartbeat', httl'⟩
      exact ⟨hheartbeat.trans hheartbeat', httl.trans httl'⟩

/-!
# Lives
-/

def passedOn (key : String) : List (Nat × Call σ) → StatusCache σ → List (σ × Nat)
  | [], _ => []
  | (now, call) :: calls, c =>
      ((c.passes? key now call).map (fun status => (status, now))).toList ++
        passedOn key calls (c.step now call)

theorem passedOn_append (key : String) (before after : List (Nat × Call σ))
    (c : StatusCache σ) :
    passedOn key (before ++ after) c =
      passedOn key before c ++ passedOn key after (c.run before) := by
  induction before generalizing c with
  | nil => rfl
  | cons e before ih =>
      rw [List.cons_append, passedOn, passedOn, ih, List.append_assoc]
      rfl

theorem passedOn_singleton (key : String) (e : Nat × Call σ) (c : StatusCache σ) :
    passedOn key [e] c =
      ((c.passes? key e.1 e.2).map (fun status => (status, e.1))).toList :=
  List.append_nil _

/-- The first of the calls makes the entry of a key, and it is there ever after. -/
structure Life (c : StatusCache σ) (key : String) (calls : List (Nat × Call σ)) : Prop where
  nonempty : calls ≠ []
  absent : c.entries.find? key = none
  present : ∀ {first rest}, calls = first ++ rest → first ≠ [] →
    (c.run first).entries.find? key ≠ none

theorem Life.singleton {c : StatusCache σ} {key : String} {e : Nat × Call σ}
    (habsent : c.entries.find? key = none)
    (hpresent : (c.step e.1 e.2).entries.find? key ≠ none) : Life c key [e] where
  nonempty := List.cons_ne_nil _ _
  absent := habsent
  present := by
    intro first rest hsplit hfirst
    rcases List.singleton_eq_append_iff.mp hsplit with ⟨hnil, _⟩ | ⟨rfl, _⟩
    · exact absurd hnil hfirst
    · exact hpresent

theorem Life.concat {c : StatusCache σ} {key : String} {calls : List (Nat × Call σ)}
    (h : Life c key calls) {e : Nat × Call σ}
    (hpresent : (c.run (calls ++ [e])).entries.find? key ≠ none) :
    Life c key (calls ++ [e]) where
  nonempty := List.append_ne_nil_of_left_ne_nil h.nonempty _
  absent := h.absent
  present := by
    intro first rest hsplit hfirst
    rcases List.prefix_concat_iff.mp ⟨rest, hsplit.symm⟩ with rfl | ⟨rest, hrest⟩
    · exact hpresent
    · exact h.present hrest.symm hfirst

/-- What was passed on under a key since its entry was made. -/
def Recalls (c : StatusCache σ) (calls : List (Nat × Call σ)) (key : String)
    (sent : List (σ × Nat)) : Prop :=
  ∃ before life, calls = before ++ life ∧ Life (c.run before) key life ∧
    passedOn key life (c.run before) = sent

theorem Recalls.singleton {c : StatusCache σ} {calls : List (Nat × Call σ)} {key : String}
    {e : Nat × Call σ} (habsent : (c.run calls).entries.find? key = none)
    (hpresent : (c.run (calls ++ [e])).entries.find? key ≠ none) :
    Recalls c (calls ++ [e]) key (passedOn key [e] (c.run calls)) := by
  rw [run_append_singleton] at hpresent
  exact ⟨calls, [e], rfl, Life.singleton habsent hpresent, rfl⟩

theorem Recalls.concat {c : StatusCache σ} {calls : List (Nat × Call σ)} {key : String}
    {sent : List (σ × Nat)} (h : Recalls c calls key sent) {e : Nat × Call σ}
    (hpresent : (c.run (calls ++ [e])).entries.find? key ≠ none) :
    Recalls c (calls ++ [e]) key (sent ++ passedOn key [e] (c.run calls)) := by
  rcases h with ⟨before, life, rfl, hlife, rfl⟩
  rw [List.append_assoc, run_append] at hpresent
  refine ⟨before, life ++ [e], List.append_assoc _ _ _, hlife.concat hpresent, ?_⟩
  rw [passedOn_append, run_append]

structure Entry.Books (e : Entry σ) (sent : List (σ × Nat)) : Prop where
  last : sent.getLast? = some (e.status, e.lastSent)
  count : e.updates = UInt64.ofNat sent.length

theorem exists_recalls {c : StatusCache σ} {key : String}
    (habsent : c.entries.find? key = none) {calls : List (Nat × Call σ)} {e : Entry σ}
    (h : (c.run calls).entries.find? key = some e) :
    ∃ sent, Recalls c calls key sent ∧ e.Books sent := by
  -- The last call has made the entry, or found one and kept its books.
  induction calls using List.reverseRecOn generalizing e with
  | nil =>
      rw [show c.run [] = c from rfl, habsent] at h
      cases h
  | append_singleton calls x ih =>
      have hpresent : (c.run (calls ++ [x])).entries.find? key ≠ none := by
        rw [h]
        exact Option.some_ne_none e
      have hsent := passedOn_singleton key x (c.run calls)
      have htransit := transit key x.1 x.2 (c.run calls)
      rw [← run_append_singleton, h] at htransit
      generalize hold : (c.run calls).entries.find? key = old at htransit
      generalize (c.run calls).passes? key x.1 x.2 = passed at htransit hsent
      cases htransit with
      | passed status =>
          cases old with
          | none =>
              refine ⟨_, Recalls.singleton hold hpresent, ?_⟩
              rw [hsent]
              exact ⟨rfl, rfl⟩
          | some e =>
              rcases ih hold with ⟨sent, hrecalls, hbooks⟩
              refine ⟨_, hrecalls.concat hpresent, ?_⟩
              rw [hsent]
              exact ⟨by simp, by simp [hbooks.count]⟩
      | kept =>
          rcases ih hold with ⟨sent, hrecalls, hbooks⟩
          refine ⟨_, hrecalls.concat hpresent, ?_⟩
          rw [hsent]
          simpa using hbooks
      | seen e =>
          rcases ih hold with ⟨sent, hrecalls, hbooks⟩
          refine ⟨_, hrecalls.concat hpresent, ?_⟩
          rw [hsent]
          exact ⟨by simpa using hbooks.last, by simpa using hbooks.count⟩

theorem Life.not_before {c : StatusCache σ} {key : String}
    {before between life : List (Nat × Call σ)}
    (hlife : Life (c.run before) key (between ++ life))
    (hlater : Life (c.run (before ++ between)) key life) : between = [] := by
  cases between with
  | nil => rfl
  | cons e between =>
      rw [run_append] at hlater
      exact absurd hlater.absent (hlife.present rfl (List.cons_ne_nil e between))

theorem Recalls.unique {c : StatusCache σ} {calls : List (Nat × Call σ)} {key : String}
    {sent sent' : List (σ × Nat)} (h : Recalls c calls key sent)
    (h' : Recalls c calls key sent') : sent = sent' := by
  rcases h with ⟨before, life, hcalls, hlife, rfl⟩
  rcases h' with ⟨before', life', hcalls', hlife', rfl⟩
  rw [hcalls, List.append_eq_append_iff] at hcalls'
  rcases hcalls' with ⟨between, rfl, rfl⟩ | ⟨between, rfl, rfl⟩
  · rw [hlife.not_before hlife', List.append_nil, List.nil_append]
  · rw [hlife'.not_before hlife, List.append_nil, List.nil_append]

theorem Recalls.exists_entry {c : StatusCache σ} {calls : List (Nat × Call σ)} {key : String}
    (habsent : c.entries.find? key = none) {sent : List (σ × Nat)}
    (h : Recalls c calls key sent) :
    ∃ e, (c.run calls).entries.find? key = some e ∧ e.Books sent := by
  have hpresent : (c.run calls).entries.find? key ≠ none := by
    rcases h with ⟨before, life, rfl, hlife, _⟩
    rw [run_append]
    exact hlife.present (List.append_nil life).symm hlife.nonempty
  rcases Option.ne_none_iff_exists'.mp hpresent with ⟨e, he⟩
  rcases exists_recalls habsent he with ⟨sent', hsent', hbooks⟩
  rw [hsent'.unique h] at hbooks
  exact ⟨e, he, hbooks⟩

end

end StatusCache
end FleetBridge
