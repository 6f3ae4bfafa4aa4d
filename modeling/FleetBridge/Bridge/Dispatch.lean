import FleetBridge.Bridge.Settlement
import FleetBridge.Decimal.Shortest

/-!
# Dispatching commands

A dispatch has two steps with the send between them.  The first makes the envelope,
begins a record, and registers a direct command as pending; it hands out a ticket.
The second takes the answer of the transport and settles the record.  Anything may
happen to the record in between.
-/

namespace FleetBridge
namespace Bridge

open Message

inductive Command where
  | order (templateId : String) (overrides : Overrides)
  | rawOrder (orderId : String) (orderUpdateId : UInt64) (graph : Graph) (text : String)
  | instantActions (actions : List Action) (text : String)
  | factsheet
  | initPosition (pose : Pose)

/-- A dispatch whose payload is on its way. -/
structure Ticket where
  orderId : String
  device : String
  transport : Transport.Kind
  headerId : UInt64
  destination : String
  payload : String
  deriving DecidableEq

structure Dispatched where
  orderId : String
  device : String
  status : Record.Status
  transport : Transport.Kind
  headerId : UInt64
  destination : String
  deriving DecidableEq

namespace Dispatched

def layout :
    Json.Layout (String × String × Record.Status × Transport.Kind × UInt64 × String × Unit) :=
  .field (.required "order_id" .text) <|
  .field (.required "device_id" .text) <|
  .field (.required "status" Record.Status.codec) <|
  .field (.required "transport" Transport.Kind.codec) <|
  .field (.required "header_id" .uint64) <|
  .field (.required "destination" .text) <|
  .done

def codec : Json.Codec Dispatched :=
  layout.codec
    (fun d => (d.orderId, d.device, d.status, d.transport, d.headerId, d.destination, ()))
    (fun (orderId, device, status, transport, headerId, destination, _) =>
      { orderId, device, status, transport, headerId, destination })

end Dispatched

def positionText (p : Pose) : String :=
  "init position x=" ++ Decimal.plainText p.x ++ " y=" ++ Decimal.plainText p.y ++
    " theta=" ++ Decimal.plainText p.theta ++ " map=" ++ p.mapId

def buildFor (now : Time.Moment) (device : String) (content : Content) (b : Bridge) :
    Envelope × Bridge :=
  let request : Request :=
    { address := { device, manufacturer := b.presence.manufacturer device }
      content
      headerId? := none }
  let (envelope, headerIds, uuids) := request.build now.instant b.headerIds b.uuids
  (envelope, { b with headerIds, uuids })

def issue (now : Time.Moment) (draft : Record.Draft) (envelope : Envelope)
    (transport : Transport.Kind) (text : Option String) (b : Bridge) :
    Except Error Ticket × Bridge :=
  let ticket : Ticket :=
    { orderId := draft.orderId
      device := draft.device
      transport
      headerId := envelope.headerId
      destination :=
        b.resolver.resolve draft.device envelope.manufacturer envelope.kind transport
      payload := envelope.wire }
  match b.store.begin now.instant draft with
  | .error e => (.error (.ofStore e), b)
  | .ok store =>
      let pending :=
        match text with
        | none => b.pending
        | some text =>
            b.pending.insert
              (.register now draft.orderId draft.device text envelope.actionIds)
      (.ok ticket, { b with store, pending })

def issueCommand (now : Time.Moment) (device : String) (envelope : Envelope)
    (transport : Transport.Kind) (text : String) (b : Bridge) :
    Except Error Ticket × Bridge :=
  let (u, b) := b.draw
  b.issue now { orderId := "cmd-" ++ u.text, templateId := none, device, revision := 0 }
    envelope transport (some text)

def issueOrder (now : Time.Moment) (device templateId : String) (graph : Graph)
    (transport : Transport.Kind) (b : Bridge) : Except Error Ticket × Bridge :=
  let (u, b) := b.draw
  let orderId := "order-" ++ u.text
  let (envelope, b) := b.buildFor now device (.order orderId 0 graph)
  b.issue now { orderId, templateId := some templateId, device, revision := 0 }
    envelope transport none

def start (now : Time.Moment) (device : String) (via : Option Transport.Kind)
    (command : Command) (b : Bridge) : Except Error Ticket × Bridge :=
  let transport := via.getD b.preferred
  match command with
  | .order templateId overrides =>
      match b.library.expand templateId b.uuids with
      | .error what => (.error (.missing what), b)
      | .ok (graph, uuids) =>
          if b.presence.isOnline device then
            { b with uuids }.issueOrder now device templateId
              (graph.withOverrides overrides).1 transport
          else (.error (.deviceNotOnline device), { b with uuids })
  | command =>
      if b.presence.isOnline device then
        match command with
        | .order _ _ => (.error (.deviceNotOnline device), b)
        | .rawOrder orderId orderUpdateId graph text =>
            let (envelope, b) := b.buildFor now device (.order orderId orderUpdateId graph)
            b.issue now { orderId, templateId := none, device, revision := orderUpdateId }
              envelope transport (some text)
        | .instantActions actions text =>
            let (envelope, b) := b.buildFor now device (.instantActions actions)
            b.issueCommand now device envelope transport text
        | .factsheet =>
            let (envelope, b) := b.buildFor now device .factsheet
            b.issueCommand now device envelope transport "factsheet request"
        | .initPosition pose =>
            let (envelope, b) := b.buildFor now device (.initPosition pose)
            b.issueCommand now device envelope transport (positionText pose)
      else (.error (.deviceNotOnline device), b)

/-- Settles the record of a dispatch by the answer of the transport.  A record that
somebody moved in the meantime is kept as it is. -/
def recordOutcome (now : Time.Moment) (orderId : String)
    (sent : Except Transport.Failure Unit) (store : Record.Store) :
    Except Error Record.Status × Record.Store :=
  match sent with
  | .ok () =>
      match store.commitSent now.instant orderId with
      | (.ok r, store) => (.ok r.status, store)
      | (.error (.invalidTransition _ current _), store) => (.ok current, store)
      | (.error e, store) => (.error (.ofStore e), store)
  | .error .cancelled => (.error (.transport .cancelled), store.discard orderId)
  | .error failure =>
      match store.commitFailed now.instant orderId failure.message with
      | (.ok _, store) => (.error (.transport failure), store)
      | (.error (.invalidTransition _ _ _), store) => (.error (.transport failure), store)
      | (.error e, store) => (.error (.ofStore e), store)

/-- The second step of a dispatch.  A command that was not sent is not pending. -/
def finish (now : Time.Moment) (t : Ticket) (sent : Except Transport.Failure Unit)
    (b : Bridge) : Except Error Dispatched × Bridge :=
  match recordOutcome now t.orderId sent b.store with
  | (.error e, store) =>
      (.error e, { b with store, pending := b.pending.erase t.orderId })
  | (.ok status, store) =>
      (.ok
        { orderId := t.orderId
          device := t.device
          status
          transport := t.transport
          headerId := t.headerId
          destination := t.destination },
        { b with store })

/-- Ends a dispatch whose caller went away before the transport answered. -/
def abandon (t : Ticket) (b : Bridge) : Bridge :=
  { b with store := b.store.discard t.orderId }

end Bridge
end FleetBridge
