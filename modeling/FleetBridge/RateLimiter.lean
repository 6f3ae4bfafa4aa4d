import FleetBridge.Keyed
import FleetBridge.Time.Span

/-!
# Limiting the rate of events

The events of a key keep a least distance from each other, unless the last one is
longer ago than a burst takes.
-/

namespace FleetBridge

structure RateLimiter where
  /-- When the last event of each key was let through, in nanoseconds. -/
  lastSent : Keyed String Nat
  minInterval : Nat
  burstInterval : Nat

namespace RateLimiter

def of (minInterval burstInterval : Nat) : RateLimiter :=
  { lastSent := .empty, minInterval, burstInterval }

def standard : RateLimiter :=
  of (Time.Span.ofMillis 500) (Time.Span.ofSeconds 5)

def admits (key : String) (now : Nat) (l : RateLimiter) : Bool :=
  match l.lastSent.find? key with
  | none => true
  | some last => l.burstInterval < now - last || l.minInterval ≤ now - last

def allow (key : String) (now : Nat) (l : RateLimiter) : Bool × RateLimiter :=
  if l.admits key now then (true, { l with lastSent := l.lastSent.insert key now })
  else (false, l)

/-- Forgets a key; its next event may go out whenever it comes. -/
def reset (key : String) (l : RateLimiter) : RateLimiter :=
  { l with lastSent := l.lastSent.erase key }

def size (l : RateLimiter) : Nat :=
  l.lastSent.size

end RateLimiter
end FleetBridge
