import FleetBridge.Message.Action

/-!
# The graph of an order

Nodes that a robot goes through, edges between them, and the actions that are to
be carried out at each.
-/

namespace FleetBridge
namespace Message

structure NodePosition where
  x : Float
  y : Float
  theta : Option Float
  mapId : String

namespace NodePosition

def layout : Json.Layout (Float × Float × Option Float × String × Unit) :=
  .field (.required "x" .float) <|
  .field (.required "y" .float) <|
  .field (.optional "theta" .float) <|
  .field (.required "mapId" .text) <|
  .done

def codec : Json.Codec NodePosition :=
  layout.codec
    (fun p => (p.x, p.y, p.theta, p.mapId, ()))
    (fun (x, y, theta, mapId, _) => { x, y, theta, mapId })

end NodePosition

structure Node where
  nodeId : String
  sequenceId : UInt32
  released : Bool
  position : Option NodePosition
  actions : List Action

namespace Node

def layout :
    Json.Layout (String × UInt32 × Bool × Option NodePosition × List Action × Unit) :=
  .field (.required "nodeId" .text) <|
  .field (.required "sequenceId" .uint32) <|
  .field (.required "released" .bool) <|
  .field (.optional "nodePosition" NodePosition.codec) <|
  .field (.defaulted "actions" Action.codec.list []) <|
  .done

def codec : Json.Codec Node :=
  layout.codec
    (fun n => (n.nodeId, n.sequenceId, n.released, n.position, n.actions, ()))
    (fun (nodeId, sequenceId, released, position, actions, _) =>
      { nodeId, sequenceId, released, position, actions })

def override (overrides : Overrides) (n : Node) : Node :=
  { n with actions := n.actions.map (Action.override overrides) }

end Node

structure Edge where
  edgeId : String
  sequenceId : UInt32
  released : Bool
  startNodeId : String
  endNodeId : String
  actions : List Action

namespace Edge

def layout :
    Json.Layout (String × UInt32 × Bool × String × String × List Action × Unit) :=
  .field (.required "edgeId" .text) <|
  .field (.required "sequenceId" .uint32) <|
  .field (.required "released" .bool) <|
  .field (.required "startNodeId" .text) <|
  .field (.required "endNodeId" .text) <|
  .field (.defaulted "actions" Action.codec.list []) <|
  .done

def codec : Json.Codec Edge :=
  layout.codec
    (fun e => (e.edgeId, e.sequenceId, e.released, e.startNodeId, e.endNodeId, e.actions, ()))
    (fun (edgeId, sequenceId, released, startNodeId, endNodeId, actions, _) =>
      { edgeId, sequenceId, released, startNodeId, endNodeId, actions })

def override (overrides : Overrides) (e : Edge) : Edge :=
  { e with actions := e.actions.map (Action.override overrides) }

end Edge

structure Graph where
  nodes : List Node
  edges : List Edge

namespace Graph

/-- The actions of the nodes and then those of the edges. -/
def actions (g : Graph) : List Action :=
  g.nodes.flatMap Node.actions ++ g.edges.flatMap Edge.actions

def actionIds (g : Graph) : List String :=
  g.actions.map Action.actionId

def override (overrides : Overrides) (g : Graph) : Graph :=
  { nodes := g.nodes.map (Node.override overrides)
    edges := g.edges.map (Edge.override overrides) }

def overridden (overrides : Overrides) (g : Graph) : Nat :=
  g.actions.foldr (fun a n => a.overridden overrides + n) 0

/-- Puts overrides in place and counts the parameters they concern; without any
override the graph is not gone through. -/
def withOverrides (overrides : Overrides) (g : Graph) : Graph × Nat :=
  if overrides.isEmpty then (g, 0) else (g.override overrides, g.overridden overrides)

end Graph

structure Pose where
  x : Float
  y : Float
  theta : Float
  mapId : String
  lastNodeId : Option String

namespace Pose

def layout : Json.Layout (Float × Float × Float × String × Option String × Unit) :=
  .field (.required "x" .float) <|
  .field (.required "y" .float) <|
  .field (.required "theta" .float) <|
  .field (.required "mapId" .text) <|
  .field (.optional "lastNodeId" .text) <|
  .done

def codec : Json.Codec Pose :=
  layout.codec
    (fun p => (p.x, p.y, p.theta, p.mapId, p.lastNodeId, ()))
    (fun (x, y, theta, mapId, lastNodeId, _) => { x, y, theta, mapId, lastNodeId })

end Pose
end Message
end FleetBridge
