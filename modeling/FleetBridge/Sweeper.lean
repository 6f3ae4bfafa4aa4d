import FleetBridge.StatusCache

/-!
# The sweeper

Purges a cache again and again.  Its timer knows whole milliseconds only.  A run
that comes late by more than the slack puts the next one off by a full interval;
otherwise the runs keep their distance.
-/

namespace FleetBridge

structure Sweeper where
  interval : Nat
  next : Nat
  /-- Whether the first run, which purges nothing, is over. -/
  started : Bool
  interval_pos : 0 < interval

namespace Sweeper

/-- How late a run may be without moving the next one. -/
def slack : Nat := Time.Span.ofMillis 5

/-- A sweeper that starts now; an interval below a millisecond becomes one. -/
def start (interval now : Nat) : Sweeper where
  interval := max interval (Time.Span.ofMillis 1)
  next := now
  started := false
  interval_pos := Nat.lt_of_lt_of_le (by decide) (Nat.le_max_right _ _)

def ceilMillis (t : Nat) : Nat :=
  (t + 999999) / 1000000 * 1000000

def isDue (now : Nat) (s : Sweeper) : Bool :=
  ceilMillis s.next ≤ now

def afterRun (now : Nat) (s : Sweeper) : Sweeper :=
  { s with
    next := if s.next + slack < now then now + s.interval else s.next + s.interval
    started := true }

def runs : Nat → Nat → Sweeper → StatusCache σ → Nat × Sweeper × StatusCache σ
  | 0, _, s, c => (0, s, c)
  | count + 1, now, s, c =>
      if s.isDue now then
        let (purged, c) := if s.started then c.purge now else (0, c)
        let (later, s, c) := runs count now (s.afterRun now) c
        (purged + later, s, c)
      else (0, s, c)

/-- Makes the runs that are due.  Unless it comes late, a run is followed at once by
no more than the intervals that fit into the slack. -/
def run (now : Nat) (s : Sweeper) (c : StatusCache σ) : Nat × Sweeper × StatusCache σ :=
  runs (slack / s.interval + 3) now s c

end Sweeper
end FleetBridge
