import FleetBridge.Time.Calendar

/-!
# Instants

A point in time is a count of whole seconds since 1970-01-01T00:00:00Z and a
number of nanoseconds.  The nanoseconds reach a second only within a leap
second, which is counted as part of the second before it.

`Moment` is what the bridge sees of time when it does something: the wall clock,
which may be set, and the clock that only runs forward.  The wall clock counts from
the epoch: set before it, it cannot be read.
-/

namespace FleetBridge
namespace Time

structure Instant where
  seconds : Int
  nanos : Nat
  deriving DecidableEq

namespace Instant

def ofNanos (n : Int) : Instant :=
  { seconds := n / 1000000000, nanos := (n % 1000000000).toNat }

def toNanos (i : Instant) : Int :=
  i.seconds * 1000000000 + i.nanos

def days (i : Instant) : Int :=
  i.seconds / 86400

def date (i : Instant) : Date :=
  Date.ofDays i.days

def secondOfDay (i : Instant) : Nat :=
  (i.seconds % 86400).toNat

def hour (i : Instant) : Nat :=
  i.secondOfDay / 3600

def minute (i : Instant) : Nat :=
  i.secondOfDay / 60 % 60

/-- The second of the minute; sixty within a leap second. -/
def second (i : Instant) : Nat :=
  i.secondOfDay % 60 + i.nanos / 1000000000

def fraction (i : Instant) : Nat :=
  i.nanos % 1000000000

end Instant

structure Moment where
  /-- Nanoseconds since the epoch on the wall clock. -/
  wall : Int
  /-- Nanoseconds on the clock that only runs forward. -/
  elapsed : Nat
  deriving DecidableEq

namespace Moment

def instant (m : Moment) : Instant :=
  Instant.ofNanos m.wall

def isReadable (m : Moment) : Bool :=
  0 ≤ m.wall

end Moment
end Time
end FleetBridge
