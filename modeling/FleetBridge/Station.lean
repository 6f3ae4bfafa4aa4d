import FleetBridge.Bridge.Courier
import FleetBridge.Config.Basic
import FleetBridge.Transport.Registry
import FleetBridge.Transport.Unconnected

/-!
# Stations

A bridge with a transport of each kind, as settings make it.  None of the
transports has a connection.
-/

namespace FleetBridge

structure Station where
  bridge : Bridge
  transports : Transport.Registry Transport.Unconnected

namespace Station

def ofConfig (c : Config) (library : Template.Library) (uuids : Uuid.Supply) : Station :=
  let bridge :=
    Bridge.fresh library (.of c.fallbackManufacturer) c.resolver c.preferred uuids
  { bridge := { bridge with statuses := c.statuses.cache, limiter := some c.limiter }
    transports :=
      Transport.Kind.all.foldl (fun r k => (r.register k (.ofKind k)).2) (.empty c.preferred) }

def carry (t : Bridge.Ticket) (cancelled : Bool) (s : Station) :
    Except Transport.Failure Unit :=
  match s.transports.find t.transport with
  | .error f => .error f
  | .ok transport =>
      .error (transport.send cancelled t.destination t.payload.toUTF8.toList)

def courier : Courier Station :=
  { bridge := Station.bridge
    setBridge := fun bridge s => { s with bridge }
    carry := fun _ t cancelled s => (s.carry t cancelled, s) }

end Station
end FleetBridge
