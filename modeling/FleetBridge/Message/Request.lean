import FleetBridge.Keyed
import FleetBridge.Message.Envelope
import FleetBridge.Uuid

/-!
# Requests for envelopes

A request says what to tell which robot.  Building its envelope stamps the time
and the next header id of the robot, which counts from one; a request may bring a
header id of its own, and then the counter stays as it is.
-/

namespace FleetBridge
namespace Message

structure Address where
  device : String
  manufacturer : String
  deriving DecidableEq

inductive Content where
  | order (orderId : String) (orderUpdateId : UInt64) (graph : Graph)
  | instantActions (actions : List Action)
  | factsheet
  | initPosition (pose : Pose)

structure Request where
  address : Address
  content : Content
  /-- A header id to take instead of the next one. -/
  headerId? : Option UInt64

/-- The last header id given out to each robot. -/
abbrev HeaderIds := Keyed String UInt64

namespace HeaderIds

def reserve (device : String) (ids : HeaderIds) : UInt64 × HeaderIds :=
  let next := (ids.find? device).getD 0 + 1
  (next, Keyed.insert device next ids)

def take (request : Request) (ids : HeaderIds) : UInt64 × HeaderIds :=
  match request.headerId? with
  | some id => (id, ids)
  | none => reserve request.address.device ids

end HeaderIds

namespace Action

def askFactsheet (u : Uuid) : Action :=
  { actionType := "factsheetRequest"
    actionId := "factsheet-" ++ u.text
    description := none
    blocking := .none
    parameters := [] }

def setPosition (u : Uuid) (pose : Pose) : Action :=
  { actionType := "initPosition"
    actionId := "init-position-" ++ u.text
    description := none
    blocking := .hard
    parameters :=
      [⟨"x", .ofFloat pose.x⟩, ⟨"y", .ofFloat pose.y⟩, ⟨"theta", .ofFloat pose.theta⟩,
        ⟨"mapId", .string pose.mapId⟩] ++
        (pose.lastNodeId.map (fun n => (⟨"lastNodeId", .string n⟩ : Parameter))).toList }

end Action

namespace Request

def instant (r : Request) (headerId : UInt64) (now : Time.Instant)
    (actions : List Action) : InstantActions :=
  { headerId
    timestamp := now
    version := protocolVersion
    manufacturer := r.address.manufacturer
    serialNumber := r.address.device
    actions }

/-- The envelope of a request under a header id, and what is left of the supply of
identifiers. -/
def envelope (r : Request) (headerId : UInt64) (now : Time.Instant)
    (uuids : Uuid.Supply) : Envelope × Uuid.Supply :=
  match r.content with
  | .order orderId orderUpdateId graph =>
      (.order
        { headerId
          timestamp := now
          version := protocolVersion
          manufacturer := r.address.manufacturer
          serialNumber := r.address.device
          orderId
          orderUpdateId
          graph },
        uuids)
  | .instantActions actions => (.instantActions (r.instant headerId now actions), uuids)
  | .factsheet =>
      (.factsheetRequest (r.instant headerId now [Action.askFactsheet uuids.draw.1]),
        uuids.draw.2)
  | .initPosition pose =>
      (.initPosition (r.instant headerId now [Action.setPosition uuids.draw.1 pose]),
        uuids.draw.2)

def build (r : Request) (now : Time.Instant) (ids : HeaderIds) (uuids : Uuid.Supply) :
    Envelope × HeaderIds × Uuid.Supply :=
  let (headerId, ids) := ids.take r
  let (envelope, uuids) := r.envelope headerId now uuids
  (envelope, ids, uuids)

end Request
end Message
end FleetBridge
