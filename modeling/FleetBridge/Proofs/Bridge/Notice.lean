import FleetBridge.Proofs.Bridge.Bystander
import FleetBridge.Proofs.StatusCache

/-!
# When the status of a robot is passed on

A bridge that listens is watched from outside: which status events go out, and when, and
which robots say that they go.  From these notices alone, and from whether the cache still
has an entry, it follows when the next state leads to a status event: the summary is new,
or has changed since the last event, or a heartbeat has passed since; and the limiter, which
forgets a robot that goes, has nothing against it.
-/

namespace FleetBridge
namespace Bridge

open Message

/-!
# One observation
-/

/-- What becomes of a status: it is passed on, or held back and then forgotten. -/
inductive Observes (now : Time.Moment) (device : String) (status : Summary) (b : Bridge)
    (l : RateLimiter) (b' : Bridge) : Prop where
  | passed (hdue : b.statuses.isDue device status now.elapsed = true)
      (hclear : l.admits device now.elapsed = true)
      (htold : b'.told = b.told ++ [StatusChange.mk device status])
      (hstatuses : b'.statuses = b.statuses.update device status now.elapsed)
      (hlimiter : b'.limiter =
        some { l with lastSent := l.lastSent.insert device now.elapsed })
  | held (hnot : ¬ (b.statuses.isDue device status now.elapsed = true ∧
        l.admits device now.elapsed = true))
      (htold : b'.told = b.told)
      (hstatuses : b'.statuses = b.statuses.refresh device now.elapsed)
      (hlimiter : b'.limiter = some l)

section

variable {b : Bridge} {l : RateLimiter} (hl : b.limiter = some l) (now : Time.Moment)

include hl

theorem observes_observeStatus (device : String) (status : Summary) :
    Observes now device status b l (b.observeStatus now device status) := by
  simp only [observeStatus, StatusCache.checkWith_eq, hl, letThrough, RateLimiter.allow]
  cases hdue : b.statuses.isDue device status now.elapsed with
  | false =>
      refine Observes.held (fun h => ?_) rfl rfl rfl
      rw [hdue] at h
      cases h.1
  | true =>
      cases hclear : l.admits device now.elapsed with
      | false =>
          refine Observes.held (fun h => ?_) rfl rfl rfl
          rw [hclear] at h
          cases h.2
      | true =>
          refine Observes.passed hdue hclear ?_ rfl rfl
          simp only [if_true, publish, draw, told, List.filterMap_append]
          rfl

theorem observes_handleState (s : State) :
    Observes now s.serialNumber s.summary b l (b.handleState now s).2 := by
  have hspares := (spares_settle now).forEach
  have hrest := hspares.rest (b.pending.correlate s).1
    { b.noted now s with pending := (b.pending.correlate s).2 }
  have htold := hspares.told (b.pending.correlate s).1
    { b.noted now s with pending := (b.pending.correlate s).2 }
  rw [handleState_eq]
  have hobserves :=
    observes_observeStatus (b := { b with presence := b.presence.observeState now.instant s })
      hl now s.serialNumber s.summary
  cases hobserves with
  | passed hdue hclear hnoted hstatuses hlimiter =>
      refine Observes.passed hdue hclear (htold.trans hnoted) ?_ ?_
      · rw [hrest]
        exact hstatuses
      · rw [hrest]
        exact hlimiter
  | held hnot hnoted hstatuses hlimiter =>
      refine Observes.held hnot (htold.trans hnoted) ?_ ?_
      · rw [hrest]
        exact hstatuses
      · rw [hrest]
        exact hlimiter

end

/-- A connection passes no status on; the limiter forgets a robot that goes. -/
theorem rest_handleConnection (now : Time.Moment) (c : Connection) (b : Bridge) :
    (b.handleConnection now c).2.told = b.told ∧
      (b.handleConnection now c).2.statuses = b.statuses ∧
      (b.handleConnection now c).2.limiter =
        if c.status.isOnline then b.limiter
        else b.limiter.map (RateLimiter.reset c.serialNumber) := by
  unfold handleConnection
  cases c.status.isOnline with
  | true => exact ⟨rfl, rfl, rfl⟩
  | false =>
      rw [if_neg Bool.false_ne_true]
      simp only [failDevice, failCommands]
      refine ⟨?_, ?_, ?_⟩
      · rw [(spares_conclude now .failed .failure _).forEach.told]
        rfl
      · rw [(spares_conclude now .failed .failure _).forEach.rest]
      · rw [(spares_conclude now .failed .failure _).forEach.rest]
        rfl

/-!
# Watching a bridge
-/

inductive Intake where
  | state (s : State)
  | connection (c : Connection)
  /-- Statuses that nobody reported for a while are forgotten. -/
  | purge

inductive Notice where
  | told (time : Nat) (change : StatusChange)
  /-- A robot has said that it goes, or its connection has broken off. -/
  | left (device : String)

namespace Intake

def apply (now : Time.Moment) : Intake → Bridge → Bridge
  | state s, b => (b.handleState now s).2
  | connection c, b => (b.handleConnection now c).2
  | purge, b => (b.purgeStatuses now).2

def departures : Intake → List Notice
  | connection c => if c.status.isOnline then [] else [.left c.serialNumber]
  | _ => []

end Intake

namespace Notice

/-- The last status event of a robot, and when it went out. -/
def lastTold? (device : String) (ns : List Notice) : Option (Summary × Nat) :=
  ns.foldl
    (fun last n =>
      match n with
      | told time c => if c.device = device then some (c.status, time) else last
      | left _ => last)
    none

/-- When the last status event of a robot went out, unless the robot has gone since. -/
def lastSince? (device : String) (ns : List Notice) : Option Nat :=
  ns.foldl
    (fun last n =>
      match n with
      | told time c => if c.device = device then some time else last
      | left gone => if gone = device then none else last)
    none

theorem lastTold?_append_told (device : String) (ns : List Notice) (time : Nat)
    (c : StatusChange) :
    lastTold? device (ns ++ [.told time c]) =
      if c.device = device then some (c.status, time) else lastTold? device ns := by
  simp only [lastTold?, List.foldl_append, List.foldl_cons, List.foldl_nil]

theorem lastTold?_append_left (device : String) (ns : List Notice) (gone : String) :
    lastTold? device (ns ++ [.left gone]) = lastTold? device ns := by
  simp only [lastTold?, List.foldl_append, List.foldl_cons, List.foldl_nil]

theorem lastSince?_append_told (device : String) (ns : List Notice) (time : Nat)
    (c : StatusChange) :
    lastSince? device (ns ++ [.told time c]) =
      if c.device = device then some time else lastSince? device ns := by
  simp only [lastSince?, List.foldl_append, List.foldl_cons, List.foldl_nil]

theorem lastSince?_append_left (device : String) (ns : List Notice) (gone : String) :
    lastSince? device (ns ++ [.left gone]) =
      if gone = device then none else lastSince? device ns := by
  simp only [lastSince?, List.foldl_append, List.foldl_cons, List.foldl_nil]

end Notice

/-- A bridge, and what has been noticed of it so far, oldest first. -/
structure Watch where
  bridge : Bridge
  notices : List Notice

structure Pace where
  heartbeat : Nat
  ttl : Nat
  minInterval : Nat
  burstInterval : Nat

namespace Watch

def opened (pace : Pace) (b : Bridge) : Watch :=
  { bridge :=
      { b with
        statuses := .of pace.heartbeat pace.ttl
        limiter := some (.of pace.minInterval pace.burstInterval) }
    notices := [] }

def step (now : Time.Moment) (i : Intake) (w : Watch) : Watch :=
  let bridge := i.apply now w.bridge
  { bridge
    notices := w.notices ++ i.departures ++
      (bridge.told.drop w.bridge.told.length).map (.told now.elapsed) }

def run (entries : List (Time.Moment × Intake)) (w : Watch) : Watch :=
  entries.foldl (fun w e => w.step e.1 e.2) w

/-- Whether a summary says something new of a robot, or enough time has passed since the
last event. -/
def IsDue (pace : Pace) (now : Time.Moment) (device : String) (status : Summary)
    (w : Watch) : Prop :=
  w.bridge.statuses.get? device = none ∨
    ∃ last time, Notice.lastTold? device w.notices = some (last, time) ∧
      (last ≠ status ∨ pace.heartbeat < now.elapsed - time)

/-- Whether the last event of a robot, since it came, is long enough ago. -/
def IsClear (pace : Pace) (now : Time.Moment) (device : String) (w : Watch) : Prop :=
  ∀ time, Notice.lastSince? device w.notices = some time →
    pace.minInterval ≤ now.elapsed - time ∨ pace.burstInterval < now.elapsed - time

/-- The cache and the limiter know nothing but what has been noticed. -/
structure Tracks (pace : Pace) (w : Watch) (l : RateLimiter) : Prop where
  heartbeat : w.bridge.statuses.heartbeat = pace.heartbeat
  sent : ∀ {device sent}, w.bridge.statuses.sent? device = some sent →
    Notice.lastTold? device w.notices = some sent
  limiter : w.bridge.limiter = some l
  minInterval : l.minInterval = pace.minInterval
  burstInterval : l.burstInterval = pace.burstInterval
  lastSent : ∀ device, l.lastSent.find? device = Notice.lastSince? device w.notices

theorem tracks_opened (pace : Pace) (b : Bridge) :
    (opened pace b).Tracks pace (.of pace.minInterval pace.burstInterval) where
  heartbeat := rfl
  sent h := by cases h
  limiter := rfl
  minInterval := rfl
  burstInterval := rfl
  lastSent _ := rfl

section

variable {pace : Pace} {w : Watch} {l : RateLimiter} (now : Time.Moment)

theorem Tracks.isDue_iff {now : Time.Moment} (hw : w.Tracks pace l) {device : String}
    {status : Summary} :
    w.bridge.statuses.isDue device status now.elapsed = true ↔
      w.IsDue pace now device status := by
  rw [StatusCache.isDue_eq_true_iff, IsDue, StatusCache.get?_eq_map_sent?, hw.heartbeat]
  cases hsent : w.bridge.statuses.sent? device with
  | none => simp
  | some sent =>
      have htold := hw.sent hsent
      simp [htold]

theorem Tracks.isClear_iff {now : Time.Moment} (hw : w.Tracks pace l) {device : String} :
    l.admits device now.elapsed = true ↔ w.IsClear pace now device := by
  unfold RateLimiter.admits IsClear
  rw [hw.lastSent device, hw.minInterval, hw.burstInterval]
  cases Notice.lastSince? device w.notices with
  | none => simp
  | some time =>
      simp only [Option.some.injEq, Bool.or_eq_true, decide_eq_true_eq, forall_eq']
      exact Or.comm

theorem notices_step_of_told {now : Time.Moment} {i : Intake}
    (h : (i.apply now w.bridge).told = w.bridge.told) :
    (w.step now i).notices = w.notices ++ i.departures := by
  simp only [step, h, List.drop_length, List.map_nil, List.append_nil]

theorem notices_step_of_passed {now : Time.Moment} {s : State} {c : StatusChange}
    (h : (w.bridge.handleState now s).2.told = w.bridge.told ++ [c]) :
    (w.step now (.state s)).notices = w.notices ++ [.told now.elapsed c] := by
  simp only [step, Intake.apply, Intake.departures, h, List.drop_left, List.map_cons,
    List.map_nil, List.append_nil]

theorem sent?_step_of_passed {now : Time.Moment} {s : State}
    (h : (w.bridge.handleState now s).2.statuses =
      w.bridge.statuses.update s.serialNumber s.summary now.elapsed) (device : String) :
    (w.step now (.state s)).bridge.statuses.sent? device =
      if device = s.serialNumber then some (s.summary, now.elapsed)
      else w.bridge.statuses.sent? device := by
  show (w.bridge.handleState now s).2.statuses.sent? device = _
  rw [h]
  split
  · rename_i hdevice
    rw [hdevice, StatusCache.sent?_update_self]
  · rename_i hdevice
    rw [StatusCache.sent?_update_of_ne hdevice]

theorem sent?_step_of_held {now : Time.Moment} {s : State}
    (h : (w.bridge.handleState now s).2.statuses =
      w.bridge.statuses.refresh s.serialNumber now.elapsed) (device : String) :
    (w.step now (.state s)).bridge.statuses.sent? device =
      w.bridge.statuses.sent? device := by
  show (w.bridge.handleState now s).2.statuses.sent? device = _
  rw [h, StatusCache.sent?_refresh]

theorem Tracks.state (hw : w.Tracks pace l) (s : State) :
    ∃ l', (w.step now (.state s)).Tracks pace l' := by
  have hobserves := observes_handleState hw.limiter now s
  cases hobserves with
  | held _ htold hstatuses hlimiter =>
      have hnotices : (w.step now (.state s)).notices = w.notices := by
        rw [notices_step_of_told (i := .state s) htold]
        exact List.append_nil _
      refine ⟨l, ?_, ?_, hlimiter, hw.minInterval, hw.burstInterval, ?_⟩
      · show (w.bridge.handleState now s).2.statuses.heartbeat = _
        rw [hstatuses]
        exact hw.heartbeat
      · intro device sent h
        rw [sent?_step_of_held hstatuses] at h
        rw [hnotices]
        exact hw.sent h
      · intro device
        rw [hnotices]
        exact hw.lastSent device
  | passed _ _ htold hstatuses hlimiter =>
      have hnotices := notices_step_of_passed htold
      refine ⟨_, ?_, ?_, hlimiter, hw.minInterval, hw.burstInterval, ?_⟩
      · show (w.bridge.handleState now s).2.statuses.heartbeat = _
        rw [hstatuses]
        exact hw.heartbeat
      · intro device sent h
        rw [sent?_step_of_passed hstatuses] at h
        rw [hnotices, Notice.lastTold?_append_told]
        by_cases hdevice : s.serialNumber = device
        · rw [if_pos hdevice.symm] at h
          rw [if_pos hdevice]
          exact h
        · rw [if_neg (Ne.symm hdevice)] at h
          rw [if_neg hdevice]
          exact hw.sent h
      · intro device
        rw [hnotices, Notice.lastSince?_append_told]
        by_cases hdevice : s.serialNumber = device
        · subst hdevice
          rw [if_pos rfl]
          exact Keyed.find?_insert_self _ _ _
        · rw [if_neg hdevice]
          exact (Keyed.find?_insert_of_ne (Ne.symm hdevice) _ _).trans (hw.lastSent device)

theorem Tracks.connection (hw : w.Tracks pace l) (c : Connection) :
    ∃ l', (w.step now (.connection c)).Tracks pace l' := by
  rcases rest_handleConnection now c w.bridge with ⟨htold, hstatuses, hlimiter⟩
  have hnotices := notices_step_of_told (i := .connection c) htold
  have hsent : ∀ {device sent},
      (w.step now (.connection c)).bridge.statuses.sent? device = some sent →
        Notice.lastTold? device w.notices = some sent := by
    intro device sent h
    change (w.bridge.handleConnection now c).2.statuses.sent? device = some sent at h
    rw [hstatuses] at h
    exact hw.sent h
  have hheartbeat : (w.step now (.connection c)).bridge.statuses.heartbeat =
      pace.heartbeat := by
    show (w.bridge.handleConnection now c).2.statuses.heartbeat = _
    rw [hstatuses]
    exact hw.heartbeat
  simp only [Intake.departures] at hnotices
  rw [hw.limiter] at hlimiter
  cases honline : c.status.isOnline with
  | true =>
      rw [honline, if_pos rfl, List.append_nil] at hnotices
      rw [honline, if_pos rfl] at hlimiter
      refine ⟨l, hheartbeat, ?_, hlimiter, hw.minInterval, hw.burstInterval, ?_⟩
      · intro device sent h
        rw [hnotices]
        exact hsent h
      · intro device
        rw [hnotices]
        exact hw.lastSent device
  | false =>
      rw [honline, if_neg Bool.false_ne_true] at hnotices hlimiter
      refine ⟨_, hheartbeat, ?_, hlimiter, hw.minInterval, hw.burstInterval, ?_⟩
      · intro device sent h
        rw [hnotices, Notice.lastTold?_append_left]
        exact hsent h
      · intro device
        rw [hnotices, Notice.lastSince?_append_left]
        by_cases hdevice : c.serialNumber = device
        · subst hdevice
          rw [if_pos rfl]
          exact Keyed.find?_erase_self _ _
        · rw [if_neg hdevice]
          exact (Keyed.find?_erase_of_ne (Ne.symm hdevice) _).trans (hw.lastSent device)

theorem Tracks.purge (hw : w.Tracks pace l) : (w.step now .purge).Tracks pace l := by
  have hnotices : (w.step now .purge).notices = w.notices := by
    rw [notices_step_of_told rfl]
    exact List.append_nil _
  refine ⟨hw.heartbeat, ?_, hw.limiter, hw.minInterval, hw.burstInterval, ?_⟩
  · intro device sent h
    rw [hnotices]
    exact hw.sent (StatusCache.sent?_of_sent?_purge h)
  · intro device
    rw [hnotices]
    exact hw.lastSent device

theorem Tracks.step (hw : w.Tracks pace l) (i : Intake) :
    ∃ l', (w.step now i).Tracks pace l' := by
  cases i with
  | state s => exact hw.state now s
  | connection c => exact hw.connection now c
  | purge => exact ⟨l, hw.purge now⟩

theorem Tracks.run (hw : w.Tracks pace l) (entries : List (Time.Moment × Intake)) :
    ∃ l', (w.run entries).Tracks pace l' := by
  induction entries generalizing w l with
  | nil => exact ⟨l, hw⟩
  | cons e entries ih =>
      rcases hw.step e.1 e.2 with ⟨l', hnext⟩
      exact ih hnext

end

structure Decides (pace : Pace) (now : Time.Moment) (s : State) (w w' : Watch) : Prop where
  /-- One event goes out exactly if it is due and the limiter agrees. -/
  told_iff : w'.bridge.told =
      w.bridge.told ++ [{ device := s.serialNumber, status := s.summary }] ↔
    w.IsDue pace now s.serialNumber s.summary ∧ w.IsClear pace now s.serialNumber
  /-- Then it is noticed, and it is what the cache has of the robot from now on. -/
  passed : w.IsDue pace now s.serialNumber s.summary → w.IsClear pace now s.serialNumber →
    w'.notices =
        w.notices ++ [.told now.elapsed { device := s.serialNumber, status := s.summary }] ∧
      w'.bridge.statuses.sent? s.serialNumber = some (s.summary, now.elapsed) ∧
      ∀ device, device ≠ s.serialNumber →
        w'.bridge.statuses.sent? device = w.bridge.statuses.sent? device
  /-- Otherwise nothing goes out, and nothing is taken for having gone out. -/
  held : ¬ (w.IsDue pace now s.serialNumber s.summary ∧
      w.IsClear pace now s.serialNumber) →
    w'.bridge.told = w.bridge.told ∧ w'.notices = w.notices ∧
      w'.bridge.limiter = w.bridge.limiter ∧
      ∀ device, w'.bridge.statuses.sent? device = w.bridge.statuses.sent? device
  /-- What was held back is due at any later time. -/
  offered : w.IsDue pace now s.serialNumber s.summary →
    ¬ w.IsClear pace now s.serialNumber → ∀ {later : Time.Moment},
      now.elapsed ≤ later.elapsed → w'.IsDue pace later s.serialNumber s.summary

theorem IsDue.later {pace : Pace} {now later : Time.Moment} {device : String}
    {status : Summary} {w w' : Watch} (h : w.IsDue pace now device status)
    (hnotices : w'.notices = w.notices)
    (hsent : w'.bridge.statuses.sent? device = w.bridge.statuses.sent? device)
    (hlater : now.elapsed ≤ later.elapsed) : w'.IsDue pace later device status := by
  unfold IsDue at h ⊢
  rw [StatusCache.get?_eq_map_sent?] at h ⊢
  rw [hnotices, hsent]
  rcases h with h | ⟨last, time, htold, hlast⟩
  · exact Or.inl h
  · refine Or.inr ⟨last, time, htold, ?_⟩
    rcases hlast with hlast | hlast
    · exact Or.inl hlast
    · exact Or.inr (by omega)

/-- After any run from a new cache and a new limiter, a state is passed on exactly when it
is due. -/
theorem decides_state (pace : Pace) (b : Bridge) (entries : List (Time.Moment × Intake))
    (now : Time.Moment) (s : State) :
    Decides pace now s ((opened pace b).run entries)
      (((opened pace b).run entries).step now (.state s)) := by
  rcases (tracks_opened pace b).run entries with ⟨l, hw⟩
  generalize (opened pace b).run entries = w at hw
  have hobserves := observes_handleState hw.limiter now s
  cases hobserves with
  | passed hdue hclear htold hstatuses hlimiter =>
      have hboth := And.intro (hw.isDue_iff.mp hdue) (hw.isClear_iff.mp hclear)
      have hsent := sent?_step_of_passed hstatuses
      have hself := (hsent s.serialNumber).trans (if_pos rfl)
      exact
        { told_iff := ⟨fun _ => hboth, fun _ => htold⟩
          passed := fun _ _ => ⟨notices_step_of_passed htold, hself,
            fun device hdevice => (hsent device).trans (if_neg hdevice)⟩
          held := fun hnot => absurd hboth hnot
          offered := fun _ hnot => absurd hboth.2 hnot }
  | held hnot htold hstatuses hlimiter =>
      rw [hw.isDue_iff, hw.isClear_iff] at hnot
      have hnotices : (w.step now (.state s)).notices = w.notices := by
        rw [notices_step_of_told (i := .state s) htold]
        exact List.append_nil _
      have hsent := sent?_step_of_held hstatuses
      refine
        { told_iff := ⟨fun h => ?_, fun h => absurd h hnot⟩
          passed := fun hdue hclear => absurd ⟨hdue, hclear⟩ hnot
          held := fun _ => ⟨htold, hnotices, hlimiter.trans hw.limiter.symm, hsent⟩
          offered := fun hdue _ _ hlater => hdue.later hnotices (hsent _) hlater }
      have hsame : w.bridge.told ++ [⟨s.serialNumber, s.summary⟩] = w.bridge.told :=
        h.symm.trans htold
      simp at hsame

end Watch
end Bridge
end FleetBridge
