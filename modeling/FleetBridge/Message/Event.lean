import FleetBridge.Message.Telemetry
import FleetBridge.Uuid

/-!
# Events

What happens inside the bridge, by subject.  Every event belongs to one of four
topics.
-/

namespace FleetBridge
namespace Message

inductive Topic where
  | telemetry
  | connection
  | statusUpdates
  | commandResults
  deriving DecidableEq

namespace Topic

def all : List Topic :=
  [telemetry, connection, statusUpdates, commandResults]

def name : Topic → String
  | telemetry => "Telemetry"
  | connection => "Connection"
  | statusUpdates => "StatusUpdates"
  | commandResults => "CommandResults"

def ofName? (s : String) : Option Topic :=
  all.find? (fun topic => topic.name == s)

end Topic

structure Factsheet where
  device : String
  document : Json.Value

namespace Factsheet

def layout : Json.Layout (String × Json.Value × Unit) :=
  .field (.required "device_id" .text) <|
  .field (.required "document" .value) <|
  .done

def codec : Json.Codec Factsheet :=
  layout.codec (fun f => (f.device, f.document, ()))
    (fun (device, document, _) => { device, document })

end Factsheet

structure StatusChange where
  device : String
  status : Summary
  deriving DecidableEq

namespace StatusChange

def layout : Json.Layout (String × Summary × Unit) :=
  .field (.required "device_id" .text) <|
  .field (.required "status" Summary.codec) <|
  .done

def codec : Json.Codec StatusChange :=
  layout.codec (fun c => (c.device, c.status, ()))
    (fun (device, status, _) => { device, status })

end StatusChange

inductive Payload where
  | state (s : State)
  | connection (c : Connection)
  | factsheet (f : Factsheet)
  | statusChanged (c : StatusChange)
  | commandResult (r : CommandResult)

namespace Payload

def topic : Payload → Topic
  | state _ => .telemetry
  | factsheet _ => .telemetry
  | connection _ => .connection
  | statusChanged _ => .statusUpdates
  | commandResult _ => .commandResults

def write : Payload → Json.Term
  | state s => .variantTerm "DeviceState" (State.codec.write s)
  | connection c => .variantTerm "Connection" (Connection.codec.write c)
  | factsheet f => .variantTerm "Factsheet" (Factsheet.codec.write f)
  | statusChanged c => .variantTerm "DeviceStatusChanged" (StatusChange.codec.write c)
  | commandResult r => .variantTerm "CommandResult" (CommandResult.codec.write r)

def read? (room : Nat) (t : Json.Term) : Option Payload :=
  match room, t.variant? with
  | room + 1, some ("DeviceState", t) => (State.codec.read? room t).map state
  | room + 1, some ("Connection", t) => (Connection.codec.read? room t).map connection
  | room + 1, some ("Factsheet", t) => (Factsheet.codec.read? room t).map factsheet
  | room + 1, some ("DeviceStatusChanged", t) =>
      (StatusChange.codec.read? room t).map statusChanged
  | room + 1, some ("CommandResult", t) => (CommandResult.codec.read? room t).map commandResult
  | _, _ => none

def codec : Json.Codec Payload where
  write := write
  read? := read?

end Payload

structure Event where
  id : Uuid
  timestamp : Time.Instant
  source : String
  payload : Payload

namespace Event

def layout : Json.Layout (Uuid × Time.Instant × String × Payload × Unit) :=
  .field (.required "id" .uuid) <|
  .field (.required "timestamp" .instant) <|
  .field (.required "source" .text) <|
  .field (.required "payload" Payload.codec) <|
  .done

def codec : Json.Codec Event :=
  layout.codec (fun e => (e.id, e.timestamp, e.source, e.payload, ()))
    (fun (id, timestamp, source, payload, _) => { id, timestamp, source, payload })

end Event
end Message
end FleetBridge
