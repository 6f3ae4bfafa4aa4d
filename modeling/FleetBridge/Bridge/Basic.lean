import FleetBridge.Transport.Failure
import FleetBridge.Message.Event
import FleetBridge.Message.Request
import FleetBridge.Destination
import FleetBridge.Pending
import FleetBridge.Presence
import FleetBridge.RateLimiter
import FleetBridge.Record.Store
import FleetBridge.StatusCache
import FleetBridge.Template.Library

/-!
# The bridge

All that the bridge knows between two steps.  Whatever it publishes is appended to
a list, from which the outside takes it.
-/

namespace FleetBridge

open Message

structure Bridge where
  library : Template.Library
  presence : Presence
  headerIds : HeaderIds
  resolver : Destination.Resolver
  /-- The transport that is taken when nobody asks for one. -/
  preferred : Transport.Kind
  store : Record.Store
  pending : Pending
  statuses : StatusCache Summary
  /-- Limits the rate of status events if there is one. -/
  limiter : Option RateLimiter
  reportsResults : Bool
  uuids : Uuid.Supply
  /-- The events published so far, oldest first. -/
  published : List Event

namespace Bridge

inductive Error where
  | missing (what : Template.Missing)
  | deviceNotOnline (device : String)
  | orderNotFound (orderId : String)
  | invalidTransition (orderId : String) (source target : Record.Status)
  | transport (failure : Transport.Failure)
  | store (e : Record.Store.Error)
  deriving DecidableEq

namespace Error

def ofStore : Record.Store.Error → Error
  | .notFound orderId => orderNotFound orderId
  | .invalidTransition orderId source target => invalidTransition orderId source target
  | e => store e

def name : Error → String
  | missing what => what.name
  | deviceNotOnline _ => "DeviceNotOnline"
  | orderNotFound _ => "OrderNotFound"
  | invalidTransition _ _ _ => "InvalidStateTransition"
  | transport failure => "Transport." ++ failure.name
  | store _ => "Store"

def message : Error → String
  | missing what => what.message
  | deviceNotOnline device => "Device '" ++ device ++ "' is not online"
  | orderNotFound orderId => (Record.Store.Error.notFound orderId).message
  | invalidTransition orderId source target =>
      (Record.Store.Error.invalidTransition orderId source target).message
  | transport failure => failure.message
  | store e => "Record store error: " ++ e.message

end Error

def fresh (library : Template.Library) (presence : Presence)
    (resolver : Destination.Resolver) (preferred : Transport.Kind)
    (uuids : Uuid.Supply) : Bridge :=
  { library
    presence
    headerIds := .empty
    resolver
    preferred
    store := .empty
    pending := .empty
    statuses := .standard
    limiter := none
    reportsResults := true
    uuids
    published := [] }

def draw (b : Bridge) : Uuid × Bridge :=
  (b.uuids.draw.1, { b with uuids := b.uuids.draw.2 })

def publish (now : Time.Moment) (source : String) (payload : Payload) (b : Bridge) :
    Bridge :=
  let (id, b) := b.draw
  { b with published := b.published ++ [{ id, timestamp := now.instant, source, payload }] }

def report (now : Time.Moment) (r : CommandResult) (b : Bridge) : Bridge :=
  if b.reportsResults then b.publish now "fleetlink-runtime::engine" (.commandResult r)
  else b

def takePublished (b : Bridge) : List Event × Bridge :=
  (b.published, { b with published := [] })

end Bridge
end FleetBridge
