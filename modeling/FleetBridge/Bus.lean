import FleetBridge.Channel
import FleetBridge.Message.Event

/-!
# The event bus

One channel for each topic.  An event goes to the channel of its topic, unless
another one is named.
-/

namespace FleetBridge

open Message (Event Topic)

structure Bus where
  telemetry : Channel Event
  connection : Channel Event
  statusUpdates : Channel Event
  commandResults : Channel Event

namespace Bus

def defaultCapacity : Nat := 256

def uniform (capacity : Nat) : Bus :=
  { telemetry := .ofCapacity capacity
    connection := .ofCapacity capacity
    statusUpdates := .ofCapacity capacity
    commandResults := .ofCapacity capacity }

/-- There is no bus whose channels keep no event. -/
def ofCapacity? (capacity : Nat) : Option Bus :=
  if capacity == 0 then none else some (uniform capacity)

def standard : Bus :=
  uniform defaultCapacity

def channel (b : Bus) : Topic → Channel Event
  | .telemetry => b.telemetry
  | .connection => b.connection
  | .statusUpdates => b.statusUpdates
  | .commandResults => b.commandResults

def setChannel (t : Topic) (c : Channel Event) (b : Bus) : Bus :=
  match t with
  | .telemetry => { b with telemetry := c }
  | .connection => { b with connection := c }
  | .statusUpdates => { b with statusUpdates := c }
  | .commandResults => { b with commandResults := c }

structure Subscriber where
  topic : Topic
  id : Nat
  deriving DecidableEq

def subscribe (t : Topic) (b : Bus) : Subscriber × Bus :=
  let (id, c) := (b.channel t).subscribe
  ({ topic := t, id }, b.setChannel t c)

def unsubscribe (s : Subscriber) (b : Bus) : Bus :=
  b.setChannel s.topic ((b.channel s.topic).unsubscribe s.id)

def audience (t : Topic) (b : Bus) : Nat :=
  (b.channel t).audience

def publishTo (t : Topic) (e : Event) (b : Bus) : Nat × Bus :=
  let (count, c) := (b.channel t).publish e
  (count, b.setChannel t c)

def publish (e : Event) (b : Bus) : Nat × Bus :=
  b.publishTo e.payload.topic e

def receive (s : Subscriber) (b : Bus) : Receipt Event × Bus :=
  let (r, c) := (b.channel s.topic).receive s.id
  (r, b.setChannel s.topic c)

def takeAll (s : Subscriber) (b : Bus) : List (Receipt Event) × Bus :=
  let (rs, c) := (b.channel s.topic).takeAll s.id
  (rs, b.setChannel s.topic c)

def close (b : Bus) : Bus :=
  { telemetry := b.telemetry.close
    connection := b.connection.close
    statusUpdates := b.statusUpdates.close
    commandResults := b.commandResults.close }

@[simp] theorem channel_setChannel (t : Topic) (c : Channel Event) (b : Bus) :
    (b.setChannel t c).channel t = c := by
  cases t <;> rfl

theorem channel_setChannel_of_ne {t u : Topic} (h : u ≠ t) (c : Channel Event)
    (b : Bus) : (b.setChannel t c).channel u = b.channel u := by
  cases t <;> cases u <;> simp_all [channel, setChannel]

end Bus
end FleetBridge
