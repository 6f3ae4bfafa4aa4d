import FleetBridge.Message.Graph
import Mathlib.Algebra.Ring.Nat
import Mathlib.Data.List.Forall2

/-!
# Overrides on a graph

Overrides reach every parameter of a graph and nothing else.  Those that come later win over
those that came before: putting both in place one after the other is putting in place the two
maps joined, and putting the same ones in place again changes nothing.
-/

namespace FleetBridge
namespace Message

/-- The overrides of two maps, those of the later one winning. -/
def Overrides.Joins (both first later : Overrides) : Prop :=
  ∀ key, both.lookup key = (later.lookup key).or (first.lookup key)

theorem Overrides.joins_append (first later : Overrides) :
    Joins (later ++ first) first later :=
  fun _ => List.lookup_append

/-!
# What is overridden and what is kept
-/

/-- A parameter keeps its key, and its value unless the overrides assign another one. -/
structure Parameter.Overridden (o : Overrides) (p q : Parameter) : Prop where
  key : q.key = p.key
  assigned : ∀ {value}, o.lookup p.key = some value → q.value = value
  kept : o.lookup p.key = none → q.value = p.value

/-- Nothing of an action is changed but the values of its parameters. -/
structure Action.Overridden (o : Overrides) (a b : Action) : Prop where
  rest : b = { a with parameters := b.parameters }
  parameters : List.Forall₂ (Parameter.Overridden o) a.parameters b.parameters

structure Node.Overridden (o : Overrides) (n m : Node) : Prop where
  rest : m = { n with actions := m.actions }
  actions : List.Forall₂ (Action.Overridden o) n.actions m.actions

structure Edge.Overridden (o : Overrides) (e f : Edge) : Prop where
  rest : f = { e with actions := f.actions }
  actions : List.Forall₂ (Action.Overridden o) e.actions f.actions

structure Graph.Overridden (o : Overrides) (g h : Graph) : Prop where
  nodes : List.Forall₂ (Node.Overridden o) g.nodes h.nodes
  edges : List.Forall₂ (Edge.Overridden o) g.edges h.edges

theorem forall₂_map_right_self {α β : Type} {R : α → β → Prop} {f : α → β}
    (h : ∀ a, R a (f a)) (l : List α) : List.Forall₂ R l (l.map f) := by
  rw [List.forall₂_map_right_iff]
  exact List.forall₂_same.mpr (fun a _ => h a)

namespace Parameter

def override (o : Overrides) (p : Parameter) : Parameter :=
  { p with value := (o.lookup p.key).getD p.value }

theorem overridden_override (o : Overrides) (p : Parameter) : p.Overridden o (p.override o) where
  key := rfl
  assigned h := by simp [override, h]
  kept h := by simp [override, h]

theorem override_override {both first later : Overrides} (h : both.Joins first later)
    (p : Parameter) : (p.override first).override later = p.override both := by
  simp only [override, h p.key]
  cases later.lookup p.key <;> rfl

theorem override_nil : override [] = id :=
  rfl

end Parameter

variable {both first later : Overrides}

namespace Action

theorem override_eq (o : Overrides) (a : Action) :
    a.override o = { a with parameters := a.parameters.map (Parameter.override o) } :=
  rfl

theorem overridden_override (o : Overrides) (a : Action) : a.Overridden o (a.override o) where
  rest := rfl
  parameters := forall₂_map_right_self (Parameter.overridden_override o) a.parameters

theorem override_override (h : both.Joins first later) (a : Action) :
    (a.override first).override later = a.override both := by
  have hparameters : Parameter.override later ∘ Parameter.override first =
      Parameter.override both := funext (Parameter.override_override h)
  simp only [override_eq, List.map_map, hparameters]

theorem override_nil : override [] = id := by
  funext a
  rw [override_eq, Parameter.override_nil, List.map_id]
  rfl

end Action

namespace Node

theorem overridden_override (o : Overrides) (n : Node) : n.Overridden o (n.override o) where
  rest := rfl
  actions := forall₂_map_right_self (Action.overridden_override o) n.actions

theorem override_override (h : both.Joins first later) (n : Node) :
    (n.override first).override later = n.override both := by
  have hactions : Action.override later ∘ Action.override first = Action.override both :=
    funext (Action.override_override h)
  simp only [override, List.map_map, hactions]

theorem override_nil : override [] = id := by
  funext n
  rw [override, Action.override_nil, List.map_id]
  rfl

end Node

namespace Edge

theorem overridden_override (o : Overrides) (e : Edge) : e.Overridden o (e.override o) where
  rest := rfl
  actions := forall₂_map_right_self (Action.overridden_override o) e.actions

theorem override_override (h : both.Joins first later) (e : Edge) :
    (e.override first).override later = e.override both := by
  have hactions : Action.override later ∘ Action.override first = Action.override both :=
    funext (Action.override_override h)
  simp only [override, List.map_map, hactions]

theorem override_nil : override [] = id := by
  funext e
  rw [override, Action.override_nil, List.map_id]
  rfl

end Edge

namespace Graph

def parameters (g : Graph) : List Parameter :=
  g.actions.flatMap Action.parameters

theorem overridden_override (o : Overrides) (g : Graph) : g.Overridden o (g.override o) where
  nodes := forall₂_map_right_self (Node.overridden_override o) g.nodes
  edges := forall₂_map_right_self (Edge.overridden_override o) g.edges

theorem override_override (h : both.Joins first later) (g : Graph) :
    (g.override first).override later = g.override both := by
  have hnodes : Node.override later ∘ Node.override first = Node.override both :=
    funext (Node.override_override h)
  have hedges : Edge.override later ∘ Edge.override first = Edge.override both :=
    funext (Edge.override_override h)
  simp only [override, List.map_map, hnodes, hedges]

theorem override_nil (g : Graph) : g.override [] = g := by
  rw [override, Node.override_nil, Edge.override_nil, List.map_id, List.map_id]

end Graph
end Message
end FleetBridge
