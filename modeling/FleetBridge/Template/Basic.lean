import FleetBridge.Message.Graph

/-!
# Templates

An action template is an action without an id.  An order template is a graph
whose nodes and edges name the templates of their actions.  A catalog lists both.
-/

namespace FleetBridge
namespace Template

open Message

structure ActionTemplate where
  id : String
  actionType : String
  blocking : Blocking
  description : Option String
  /-- Default values by key, in ascending order of the keys. -/
  parameters : List (String × Json.Value)

namespace ActionTemplate

def layout :
    Json.Layout (String × String × Blocking × Option String ×
      List (String × Json.Value) × Unit) :=
  .field (.required "id" .text) <|
  .field (.required "actionType" .text) <|
  .field (.defaulted "blockingType" Blocking.codec .none) <|
  .field (.optional "description" .text) <|
  .field (.defaulted "parameters" (.members .value) []) <|
  .done

def codec : Json.Codec ActionTemplate :=
  layout.codec
    (fun t => (t.id, t.actionType, t.blocking, t.description, t.parameters, ()))
    (fun (id, actionType, blocking, description, parameters, _) =>
      { id, actionType, blocking, description, parameters })

end ActionTemplate

structure NodeTemplate where
  nodeId : String
  sequenceId : UInt32
  released : Bool
  position : Option NodePosition
  actionTemplateIds : List String

namespace NodeTemplate

def layout :
    Json.Layout (String × UInt32 × Bool × Option NodePosition × List String × Unit) :=
  .field (.required "nodeId" .text) <|
  .field (.required "sequenceId" .uint32) <|
  .field (.defaulted "released" .bool true) <|
  .field (.optional "nodePosition" NodePosition.codec) <|
  .field (.defaulted "actionTemplateIds" (.list .text) []) <|
  .done

def codec : Json.Codec NodeTemplate :=
  layout.codec
    (fun n => (n.nodeId, n.sequenceId, n.released, n.position, n.actionTemplateIds, ()))
    (fun (nodeId, sequenceId, released, position, actionTemplateIds, _) =>
      { nodeId, sequenceId, released, position, actionTemplateIds })

end NodeTemplate

structure EdgeTemplate where
  edgeId : String
  sequenceId : UInt32
  released : Bool
  startNodeId : String
  endNodeId : String
  actionTemplateIds : List String

namespace EdgeTemplate

def layout :
    Json.Layout (String × UInt32 × Bool × String × String × List String × Unit) :=
  .field (.required "edgeId" .text) <|
  .field (.required "sequenceId" .uint32) <|
  .field (.defaulted "released" .bool true) <|
  .field (.required "startNodeId" .text) <|
  .field (.required "endNodeId" .text) <|
  .field (.defaulted "actionTemplateIds" (.list .text) []) <|
  .done

def codec : Json.Codec EdgeTemplate :=
  layout.codec
    (fun e =>
      (e.edgeId, e.sequenceId, e.released, e.startNodeId, e.endNodeId,
        e.actionTemplateIds, ()))
    (fun (edgeId, sequenceId, released, startNodeId, endNodeId, actionTemplateIds, _) =>
      { edgeId, sequenceId, released, startNodeId, endNodeId, actionTemplateIds })

end EdgeTemplate

structure OrderTemplate where
  id : String
  name : String
  nodes : List NodeTemplate
  edges : List EdgeTemplate

namespace OrderTemplate

def layout :
    Json.Layout (String × String × List NodeTemplate × List EdgeTemplate × Unit) :=
  .field (.required "id" .text) <|
  .field (.defaulted "name" .text "") <|
  .field (.defaulted "nodes" NodeTemplate.codec.list []) <|
  .field (.defaulted "edges" EdgeTemplate.codec.list []) <|
  .done

def codec : Json.Codec OrderTemplate :=
  layout.codec (fun t => (t.id, t.name, t.nodes, t.edges, ()))
    (fun (id, name, nodes, edges, _) => { id, name, nodes, edges })

end OrderTemplate

structure Catalog where
  actions : List ActionTemplate
  orders : List OrderTemplate

namespace Catalog

def layout : Json.Layout (List ActionTemplate × List OrderTemplate × Unit) :=
  .field (.defaulted "actionTemplates" ActionTemplate.codec.list []) <|
  .field (.defaulted "orderTemplates" OrderTemplate.codec.list []) <|
  .done

def codec : Json.Codec Catalog :=
  layout.codec (fun c => (c.actions, c.orders, ()))
    (fun (actions, orders, _) => { actions, orders })

end Catalog
end Template
end FleetBridge
