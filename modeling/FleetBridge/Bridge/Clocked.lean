import FleetBridge.Bridge.Courier
import FleetBridge.Bridge.Ingest
import FleetBridge.Clocked

/-!
# The bridge on a wall clock

Where the steps of the bridge come to the wall clock, and what they have done by
then: a dispatch has taken its header id, a sweep has taken its commands out, and a
message has changed whether its robot is there.
-/

namespace FleetBridge
namespace Clocked

open Message

/-- A dispatch that is not refused at once comes to the clock with its header id. -/
def dispatch (c : Courier σ) (now : Time.Moment) (device : String)
    (via : Option Transport.Kind) (command : Bridge.Command) (cancelled : Bool) (s : σ) :
    Clocked (Except Bridge.Error Bridge.Dispatched) σ :=
  let r := c.dispatch now device via command cancelled s
  let b := c.bridge s
  match b.start now device via command with
  | (.error (.missing _), _) => unstamped r
  | (.error (.deviceNotOnline _), _) => unstamped r
  | (_, next) =>
      stamped now (c.setBridge { b with headerIds := next.headerIds, uuids := next.uuids } s) r

/-- The move of a record comes to the clock once the lifecycle has admitted it. -/
def moveOrder (now : Time.Moment) (f : Bridge → Except Bridge.Error Record × Bridge)
    (b : Bridge) : Clocked (Except Bridge.Error Record) Bridge :=
  let r := f b
  match r.1 with
  | .error (.orderNotFound _) => unstamped r
  | .error (.invalidTransition _ _ _) => unstamped r
  | _ => stamped now b r

/-- A sweep that found a command comes to the clock when it has taken out all of them. -/
def sweep (now : Time.Moment) (f : Bridge → List CommandResult × Bridge) (b : Bridge) :
    Clocked (List CommandResult) Bridge :=
  let r := f b
  if r.1.isEmpty then unstamped r
  else stamped now { b with pending := r.2.pending, limiter := r.2.limiter } r

def onPresence (f : Presence → Clocked α Presence) (b : Bridge) : Clocked α Bridge :=
  let (a, presence) := f b.presence
  (a, { b with presence })

def handleState (now : Time.Moment) (s : State) (b : Bridge) :
    Clocked (List CommandResult) Bridge :=
  stamped now (onPresence (observeState now s) b).2 (b.handleState now s)

/-- Of a robot that was not there only pending commands come to the clock. -/
def handleConnection (now : Time.Moment) (c : Connection) (b : Bridge) :
    Clocked (List CommandResult) Bridge :=
  if c.status.isOnline || b.presence.isOnline c.serialNumber then
    stamped now (onPresence (observeConnection now c) b).2 (b.handleConnection now c)
  else sweep now (Bridge.handleConnection now c) b

def handleFactsheet (now : Time.Moment) (f : Factsheet) (b : Bridge) : Clocked Unit Bridge :=
  onPresence (observeFactsheet now f.device f.document) b

/-- Takes in an event that comes from nowhere else and is stamped first. -/
def handleEvent (now : Time.Moment) (e : Event) (b : Bridge) : Clocked Unit Bridge :=
  stamped now b ((), b.handleEvent now e)

end Clocked
end FleetBridge
