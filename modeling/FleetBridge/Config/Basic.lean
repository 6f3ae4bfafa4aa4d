import FleetBridge.Destination
import FleetBridge.Presence
import FleetBridge.RateLimiter
import FleetBridge.StatusCache
import FleetBridge.Time.Span

/-!
# Settings

What can be set about a bridge, with what holds if nothing is said.  Periods that
a clock waits for last at least one second.
-/

namespace FleetBridge
namespace Config

structure Broker where
  host : String := "localhost"
  port : UInt16 := 1883
  clientId : String := "fleetlink"
  username : Option String := none
  password : Option String := none
  keepAliveSeconds : UInt64 := 30
  publishTimeoutMillis : UInt64 := 5000
  root : String := Destination.Resolver.defaultRoot
  deriving DecidableEq

structure Endpoint where
  pattern : String
  timeoutMillis : UInt64 := 10000
  deriving DecidableEq

structure Statuses where
  heartbeatSeconds : UInt64 := 10
  ttlSeconds : UInt64 := 300
  sweepSeconds : UInt64 := 60
  deriving DecidableEq

structure Rate where
  minMillis : UInt64 := 500
  burstMillis : UInt64 := 5000
  deriving DecidableEq

end Config

structure Config where
  preferred : Transport.Kind := .queue
  databasePath : Option String := none
  templatesPath : Option String := none
  fallbackManufacturer : String := Presence.defaultFallback
  /-- How long a direct command waits for its result. -/
  pendingTtlSeconds : UInt64 := 600
  broker : Config.Broker := {}
  http : Config.Endpoint := { pattern := Destination.Resolver.defaultHttpPattern }
  stream : Config.Endpoint := { pattern := Destination.Resolver.defaultStreamPattern }
  statuses : Config.Statuses := {}
  rate : Config.Rate := {}
  deriving DecidableEq

namespace Config

/-- A period in seconds that is not zero. -/
def atLeastOneSecond (seconds : UInt64) : Nat :=
  max 1 seconds.toNat

def pendingTtl (c : Config) : Nat :=
  atLeastOneSecond c.pendingTtlSeconds

namespace Statuses

def heartbeat (s : Statuses) : Nat :=
  atLeastOneSecond s.heartbeatSeconds

def ttl (s : Statuses) : Nat :=
  atLeastOneSecond s.ttlSeconds

def sweepInterval (s : Statuses) : Nat :=
  atLeastOneSecond s.sweepSeconds

def cache (s : Statuses) : StatusCache σ :=
  .of (Time.Span.ofSeconds s.heartbeat) (Time.Span.ofSeconds s.ttl)

end Statuses

def resolver (c : Config) : Destination.Resolver :=
  .of c.broker.root c.http.pattern c.stream.pattern

def limiter (c : Config) : RateLimiter :=
  .of (Time.Span.ofMillis c.rate.minMillis.toNat) (Time.Span.ofMillis c.rate.burstMillis.toNat)

end Config
end FleetBridge
