import FleetBridge.Bridge.Ingest

/-!
# Listening to the bus

A bridge takes in what robots publish as a subscriber of the bus like any other.
What comes in too fast for it is lost to it.
-/

namespace FleetBridge
namespace Bridge

/-- A bus and the subscriptions through which the bridge listens to it. -/
structure Listener where
  bus : Bus
  subscriptions : List Bus.Subscriber

namespace Listener

def detached (bus : Bus) : Listener :=
  { bus, subscriptions := [] }

/-- The bridge listens to states, factsheets and connections. -/
def attached (bus : Bus) : Listener :=
  let (telemetry, bus) := bus.subscribe .telemetry
  let (connection, bus) := bus.subscribe .connection
  { bus, subscriptions := [telemetry, connection] }

def publish (e : Message.Event) (l : Listener) : Nat × Listener :=
  let (count, bus) := l.bus.publish e
  (count, { l with bus })

def takeIn (now : Time.Moment) (l : Listener) (b : Bridge) : Listener × Bridge :=
  l.subscriptions.foldl
    (fun (l, b) s =>
      let (receipts, bus) := l.bus.takeAll s
      ({ l with bus }, b.handleReceipts now receipts))
    (l, b)

end Listener
end Bridge
end FleetBridge
