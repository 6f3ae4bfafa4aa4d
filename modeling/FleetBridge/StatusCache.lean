import FleetBridge.Keyed
import FleetBridge.Time.Span

/-!
# The cache of statuses

A status of a key is passed on when the key is new, when the status differs from
the last one passed on, or when that one is longer ago than a heartbeat takes.
Entries that nobody has observed for longer than their time to live are purged.
Times are nanoseconds on a clock that only runs forward.
-/

namespace FleetBridge

namespace StatusCache

structure Entry (σ : Type) where
  /-- The status that was passed on last. -/
  status : σ
  /-- When a status was last observed, passed on or not. -/
  lastObserved : Nat
  lastSent : Nat
  /-- How many statuses were passed on, as far as 64 bits hold. -/
  updates : UInt64
  deriving DecidableEq

end StatusCache

structure StatusCache (σ : Type) where
  entries : Keyed String (StatusCache.Entry σ)
  heartbeat : Nat
  ttl : Nat

namespace StatusCache

def of (heartbeat ttl : Nat) : StatusCache σ :=
  { entries := .empty, heartbeat, ttl }

def standard : StatusCache σ :=
  of (Time.Span.ofSeconds 10) (Time.Span.ofSeconds 300)

variable {σ : Type} [DecidableEq σ]

def isDueAfter (status : σ) (now : Nat) (e : Entry σ) (c : StatusCache σ) : Bool :=
  e.status != status || c.heartbeat < now - e.lastSent

def isDue (key : String) (status : σ) (now : Nat) (c : StatusCache σ) : Bool :=
  match c.entries.find? key with
  | none => true
  | some e => c.isDueAfter status now e

omit [DecidableEq σ] in
def update (key : String) (status : σ) (now : Nat) (c : StatusCache σ) : StatusCache σ :=
  let updates := ((c.entries.find? key).map Entry.updates).getD 0 + 1
  { c with
    entries := c.entries.insert key { status, lastObserved := now, lastSent := now, updates } }

omit [DecidableEq σ] in
/-- Takes note of an observation that is not passed on. -/
def refresh (key : String) (now : Nat) (c : StatusCache σ) : StatusCache σ :=
  { c with entries := c.entries.modify key (fun e => { e with lastObserved := now }) }

/-- Passes a status on if it is due and `agree` says so, which is asked only then.
What `agree` knows is handed through. -/
def checkWith (agree : ρ → Bool × ρ) (key : String) (status : σ) (now : Nat) (r : ρ)
    (c : StatusCache σ) : Bool × ρ × StatusCache σ :=
  if c.isDue key status now then
    let (admitted, r) := agree r
    if admitted then (true, r, c.update key status now) else (false, r, c.refresh key now)
  else (false, r, c.refresh key now)

def check (key : String) (status : σ) (now : Nat) (c : StatusCache σ) :
    Bool × StatusCache σ :=
  let (accepted, _, c) := c.checkWith (fun (r : Unit) => (true, r)) key status now ()
  (accepted, c)

omit [DecidableEq σ] in
def get? (key : String) (c : StatusCache σ) : Option σ :=
  (c.entries.find? key).map Entry.status

omit [DecidableEq σ] in
def updates? (key : String) (c : StatusCache σ) : Option UInt64 :=
  (c.entries.find? key).map Entry.updates

omit [DecidableEq σ] in
def size (c : StatusCache σ) : Nat :=
  c.entries.size

omit [DecidableEq σ] in
def isStale (now : Nat) (e : Entry σ) (c : StatusCache σ) : Bool :=
  c.ttl < now - e.lastObserved

omit [DecidableEq σ] in
def staleKeys (now : Nat) (c : StatusCache σ) : List String :=
  (c.entries.filter (fun _ e => c.isStale now e)).keys

omit [DecidableEq σ] in
/-- Removes those of the given keys whose entries have outlived their time, and
counts them. -/
def removeStale (keys : List String) (now : Nat) (c : StatusCache σ) :
    Nat × StatusCache σ :=
  let kept := c.entries.filter (fun k e => !(keys.contains k && c.isStale now e))
  (c.entries.size - kept.size, { c with entries := kept })

omit [DecidableEq σ] in
def purge (now : Nat) (c : StatusCache σ) : Nat × StatusCache σ :=
  c.removeStale (c.staleKeys now) now

end StatusCache
end FleetBridge
