import FleetBridge.Message.Graph
import FleetBridge.Message.Kind

/-!
# Envelopes

What goes out to a robot: an order with its graph, or a list of instant actions.
A request for a factsheet and the setting of a position are instant actions with
one action that the bridge makes up.  On the wire an envelope carries no tag that
tells which of these it is.
-/

namespace FleetBridge
namespace Message

def protocolVersion : String := "2.0.0"

structure Order where
  headerId : UInt64
  timestamp : Time.Instant
  version : String
  manufacturer : String
  serialNumber : String
  orderId : String
  orderUpdateId : UInt64
  graph : Graph

namespace Order

def layout :
    Json.Layout (UInt64 × Time.Instant × String × String × String × String × UInt64 ×
      List Node × List Edge × Unit) :=
  .field (.required "headerId" .uint64) <|
  .field (.required "timestamp" .instant) <|
  .field (.required "version" .text) <|
  .field (.required "manufacturer" .text) <|
  .field (.required "serialNumber" .text) <|
  .field (.required "orderId" .text) <|
  .field (.required "orderUpdateId" .uint64) <|
  .field (.required "nodes" Node.codec.list) <|
  .field (.required "edges" Edge.codec.list) <|
  .done

def codec : Json.Codec Order :=
  layout.codec
    (fun o =>
      (o.headerId, o.timestamp, o.version, o.manufacturer, o.serialNumber, o.orderId,
        o.orderUpdateId, o.graph.nodes, o.graph.edges, ()))
    (fun (headerId, timestamp, version, manufacturer, serialNumber, orderId,
        orderUpdateId, nodes, edges, _) =>
      { headerId, timestamp, version, manufacturer, serialNumber, orderId, orderUpdateId
        graph := { nodes, edges } })

end Order

structure InstantActions where
  headerId : UInt64
  timestamp : Time.Instant
  version : String
  manufacturer : String
  serialNumber : String
  actions : List Action

namespace InstantActions

def layout :
    Json.Layout (UInt64 × Time.Instant × String × String × String × List Action × Unit) :=
  .field (.required "headerId" .uint64) <|
  .field (.required "timestamp" .instant) <|
  .field (.required "version" .text) <|
  .field (.required "manufacturer" .text) <|
  .field (.required "serialNumber" .text) <|
  .field (.required "actions" Action.codec.list) <|
  .done

def codec : Json.Codec InstantActions :=
  layout.codec
    (fun i =>
      (i.headerId, i.timestamp, i.version, i.manufacturer, i.serialNumber, i.actions, ()))
    (fun (headerId, timestamp, version, manufacturer, serialNumber, actions, _) =>
      { headerId, timestamp, version, manufacturer, serialNumber, actions })

end InstantActions

inductive Envelope where
  | order (o : Order)
  | instantActions (i : InstantActions)
  | factsheetRequest (i : InstantActions)
  | initPosition (i : InstantActions)

namespace Envelope

def headerId : Envelope → UInt64
  | order o => o.headerId
  | instantActions i => i.headerId
  | factsheetRequest i => i.headerId
  | initPosition i => i.headerId

def manufacturer : Envelope → String
  | order o => o.manufacturer
  | instantActions i => i.manufacturer
  | factsheetRequest i => i.manufacturer
  | initPosition i => i.manufacturer

def serialNumber : Envelope → String
  | order o => o.serialNumber
  | instantActions i => i.serialNumber
  | factsheetRequest i => i.serialNumber
  | initPosition i => i.serialNumber

def kind : Envelope → Kind
  | order _ => .order
  | _ => .instantActions

def actionIds : Envelope → List String
  | order o => o.graph.actionIds
  | instantActions i => i.actions.map Action.actionId
  | factsheetRequest i => i.actions.map Action.actionId
  | initPosition i => i.actions.map Action.actionId

def toTerm : Envelope → Json.Term
  | order o => Order.codec.write o
  | instantActions i => InstantActions.codec.write i
  | factsheetRequest i => InstantActions.codec.write i
  | initPosition i => InstantActions.codec.write i

def wire (e : Envelope) : String :=
  e.toTerm.render

end Envelope
end Message
end FleetBridge
