import FleetBridge.Destination
import FleetBridge.Message.Event
import FleetBridge.Text.Utf8

/-!
# Inbound messages

A message that arrives on a topic becomes an event of the topic's kind, if it can
be read.  Messages on other topics and those that cannot be read are dropped.
-/

namespace FleetBridge
namespace Inbound

open Message

def payload? (origin : Destination.Resolver.Origin) (bytes : List UInt8) :
    Option Payload :=
  let glyphs := Text.glyphs bytes
  match origin.kind with
  | .state => (State.codec.parse glyphs).toOption.map .state
  | .connection => (Connection.codec.parse glyphs).toOption.map .connection
  | .factsheet =>
      (Json.Codec.value.parse glyphs).toOption.map
        (fun document => .factsheet { device := origin.device, document })
  | _ => none

def source (kind : Message.Kind) : String :=
  "fleetlink-middleware::mqtt/" ++ kind.name

def event? (resolver : Destination.Resolver) (now : Time.Instant) (id : Uuid)
    (topic : String) (bytes : List UInt8) : Option Event := do
  let origin ← resolver.origin? topic
  let payload ← payload? origin bytes
  return { id, timestamp := now, source := source origin.kind, payload }

end Inbound
end FleetBridge
