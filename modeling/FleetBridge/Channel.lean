import FleetBridge.Keyed

/-!
# Broadcast channels

Every subscriber of a channel gets every event that is published after it came.
The channel keeps the last events only, so a slow subscriber misses some: it is
told how many and goes on with the oldest one kept.  What is kept is still
delivered after the channel is closed.
-/

namespace FleetBridge

structure Channel (ε : Type) where
  capacity : Nat
  /-- The last events, oldest first. -/
  kept : List ε
  /-- How many events there were so far. -/
  published : Nat
  /-- The number of the next event for each subscriber. -/
  cursors : Keyed Nat Nat
  /-- The number of the next subscriber. -/
  subscribers : Nat
  closed : Bool

inductive Receipt (ε : Type) where
  | event (e : ε)
  /-- So many events were missed. -/
  | lagged (missed : Nat)
  /-- Nothing is there yet. -/
  | waiting
  /-- Nothing is there, and nothing will come. -/
  | closed

namespace Channel

/-- A channel that keeps `capacity` events, rounded up to a power of two. -/
def ofCapacity (capacity : Nat) : Channel ε :=
  { capacity := capacity.nextPowerOfTwo
    kept := []
    published := 0
    cursors := .empty
    subscribers := 0
    closed := false }

def subscribe (c : Channel ε) : Nat × Channel ε :=
  (c.subscribers,
    { c with
      cursors := c.cursors.insert c.subscribers c.published
      subscribers := c.subscribers + 1 })

def unsubscribe (id : Nat) (c : Channel ε) : Channel ε :=
  { c with cursors := c.cursors.erase id }

def audience (c : Channel ε) : Nat :=
  c.cursors.size

/-- Publishes an event and counts the subscribers; without any it is lost. -/
def publish (e : ε) (c : Channel ε) : Nat × Channel ε :=
  if c.audience == 0 then (0, c)
  else
    let kept := c.kept ++ [e]
    (c.audience,
      { c with
        kept := kept.drop (kept.length - c.capacity)
        published := c.published + 1 })

def oldest (c : Channel ε) : Nat :=
  c.published - c.kept.length

def receive (id : Nat) (c : Channel ε) : Receipt ε × Channel ε :=
  match c.cursors.find? id with
  | none => (.closed, c)
  | some next =>
      if next < c.oldest then
        (.lagged (c.oldest - next), { c with cursors := c.cursors.insert id c.oldest })
      else
        match c.kept[next - c.oldest]? with
        | some e => (.event e, { c with cursors := c.cursors.insert id (next + 1) })
        | none => (if c.closed then .closed else .waiting, c)

def close (c : Channel ε) : Channel ε :=
  { c with closed := true }

/-- Takes everything that waits for a subscriber, at most `count` receipts. -/
def drain (id : Nat) : Nat → Channel ε → List (Receipt ε) × Channel ε
  | 0, c => ([], c)
  | count + 1, c =>
      match c.receive id with
      | (.waiting, c) => ([], c)
      | (.closed, c) => ([], c)
      | (r, c) =>
          let (rs, c) := drain id count c
          (r :: rs, c)

/-- Takes everything that waits for a subscriber: no more receipts than events
kept, and one that tells of those missed. -/
def takeAll (id : Nat) (c : Channel ε) : List (Receipt ε) × Channel ε :=
  c.drain id (c.kept.length + 1)

end Channel
end FleetBridge
