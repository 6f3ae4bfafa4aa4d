import FleetBridge.Bridge.Settlement
import FleetBridge.Bus

/-!
# Taking in telemetry

A state refreshes presence, is passed on as a status event when it is due and the
limiter agrees, and settles the commands that it decides.  A robot that goes away
takes its pending commands with it.  A factsheet names the maker of a robot.
-/

namespace FleetBridge
namespace Bridge

open Message

def letThrough (device : String) (now : Nat) : Option RateLimiter → Bool × Option RateLimiter
  | none => (true, none)
  | some limiter =>
      let (allowed, limiter) := limiter.allow device now
      (allowed, some limiter)

def observeStatus (now : Time.Moment) (device : String) (status : Summary) (b : Bridge) :
    Bridge :=
  let (accepted, limiter, statuses) :=
    b.statuses.checkWith (letThrough device now.elapsed) device status now.elapsed b.limiter
  let b := { b with limiter, statuses }
  if accepted then
    b.publish now "fleetlink-runtime::ingest" (.statusChanged { device, status })
  else b

/-- Takes in a state; gives the results of the commands that it settled. -/
def handleState (now : Time.Moment) (s : State) (b : Bridge) : List CommandResult × Bridge :=
  let b := { b with presence := b.presence.observeState now.instant s }
  let b := b.observeStatus now s.serialNumber s.summary
  let (settled, pending) := b.pending.correlate s
  forEach (settle now) settled { b with pending }

def absenceName : ConnectionStatus → String
  | .online => "Online"
  | .offline => "Offline"
  | .broken => "ConnectionBroken"

def handleConnection (now : Time.Moment) (c : Connection) (b : Bridge) :
    List CommandResult × Bridge :=
  let device := c.serialNumber
  let b := { b with presence := b.presence.observeConnection now.instant c }
  if c.status.isOnline then ([], b)
  else
    { b with limiter := b.limiter.map (RateLimiter.reset device) }.failDevice now device
      ("device " ++ device ++ " reported " ++ absenceName c.status)

def handleFactsheet (now : Time.Moment) (f : Factsheet) (b : Bridge) : Bridge :=
  { b with presence := b.presence.observeFactsheet now.instant f.device f.document }

/-- Takes in whatever an event carries; events that the bridge publishes itself say
nothing new. -/
def handleEvent (now : Time.Moment) (e : Event) (b : Bridge) : Bridge :=
  match e.payload with
  | .state s => (b.handleState now s).2
  | .connection c => (b.handleConnection now c).2
  | .factsheet f => b.handleFactsheet now f
  | .statusChanged _ => b
  | .commandResult _ => b

def handleReceipts (now : Time.Moment) (rs : List (Receipt Event)) (b : Bridge) : Bridge :=
  rs.foldl
    (fun b r =>
      match r with
      | .event e => b.handleEvent now e
      | _ => b)
    b

def purgeStatuses (now : Time.Moment) (b : Bridge) : Nat × Bridge :=
  let (count, statuses) := b.statuses.purge now.elapsed
  (count, { b with statuses })

end Bridge
end FleetBridge
