import FleetBridge.Keyed
import FleetBridge.Template.Basic
import FleetBridge.Uuid

/-!
# The library of templates

Templates by their ids; a template with an id that is taken replaces the other
one.  Expanding an order template gives its graph with an action for every action
template that is named, each under an id of its own.  It succeeds only if every
name is known.
-/

namespace FleetBridge
namespace Template

open Message

structure Library where
  actions : Keyed String ActionTemplate
  orders : Keyed String OrderTemplate

inductive Missing where
  | order (id : String)
  | action (id : String)
  deriving DecidableEq

namespace Missing

def name : Missing → String
  | order _ => "TemplateNotFound"
  | action _ => "ActionTemplateNotFound"

def message : Missing → String
  | order id => "Order template not found: " ++ id
  | action id => "Action template not found: " ++ id

end Missing

namespace ActionTemplate

def instantiate (u : Uuid) (t : ActionTemplate) : Action :=
  { actionType := t.actionType
    actionId := t.id ++ "-" ++ u.text
    description := t.description
    blocking := t.blocking
    parameters := t.parameters.map (fun (key, value) => { key, value }) }

end ActionTemplate

namespace Library

def empty : Library :=
  { actions := .empty, orders := .empty }

def insertAction (t : ActionTemplate) (l : Library) : Library :=
  { l with actions := l.actions.insert t.id t }

def insertOrder (t : OrderTemplate) (l : Library) : Library :=
  { l with orders := l.orders.insert t.id t }

def ofCatalog (c : Catalog) : Library :=
  let l := c.actions.foldl (fun l t => l.insertAction t) empty
  c.orders.foldl (fun l t => l.insertOrder t) l

def order? (id : String) (l : Library) : Option OrderTemplate :=
  l.orders.find? id

def orderIds (l : Library) : List String :=
  l.orders.keys.mergeSort (fun a b => !decide (b < a))

def expandActions (l : Library) : List String → Uuid.Supply →
    Except Missing (List Action × Uuid.Supply)
  | [], uuids => .ok ([], uuids)
  | id :: ids, uuids => do
      match l.actions.find? id with
      | none => throw (.action id)
      | some t =>
          let (u, uuids) := uuids.draw
          let (actions, uuids) ← expandActions l ids uuids
          return (t.instantiate u :: actions, uuids)

def expandNodes (l : Library) : List NodeTemplate → Uuid.Supply →
    Except Missing (List Node × Uuid.Supply)
  | [], uuids => .ok ([], uuids)
  | n :: ns, uuids => do
      let (actions, uuids) ← l.expandActions n.actionTemplateIds uuids
      let (nodes, uuids) ← expandNodes l ns uuids
      let node : Node :=
        { nodeId := n.nodeId
          sequenceId := n.sequenceId
          released := n.released
          position := n.position
          actions }
      return (node :: nodes, uuids)

def expandEdges (l : Library) : List EdgeTemplate → Uuid.Supply →
    Except Missing (List Edge × Uuid.Supply)
  | [], uuids => .ok ([], uuids)
  | e :: es, uuids => do
      let (actions, uuids) ← l.expandActions e.actionTemplateIds uuids
      let (edges, uuids) ← expandEdges l es uuids
      let edge : Edge :=
        { edgeId := e.edgeId
          sequenceId := e.sequenceId
          released := e.released
          startNodeId := e.startNodeId
          endNodeId := e.endNodeId
          actions }
      return (edge :: edges, uuids)

def expand (l : Library) (id : String) (uuids : Uuid.Supply) :
    Except Missing (Graph × Uuid.Supply) := do
  match l.order? id with
  | none => throw (.order id)
  | some t =>
      let (nodes, uuids) ← l.expandNodes t.nodes uuids
      let (edges, uuids) ← l.expandEdges t.edges uuids
      return ({ nodes, edges }, uuids)

end Library
end Template
end FleetBridge
