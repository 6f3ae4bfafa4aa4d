import FleetBridge.Proofs.Json.Value
import FleetBridge.Proofs.Template.Library
import FleetBridge.Proofs.Uuid
import Mathlib.Data.List.Forall2

/-!
# Templates expanded

An expansion finds all the action templates that are named, or it stops at the first one
that it does not find and makes nothing.  What it makes has the shape of the order template,
with an action for every name, and no two actions of it have the same id.
-/

namespace FleetBridge

namespace Uuid.Supply

def after (s : Supply) (count : Nat) : Supply :=
  { s with drawn := s.drawn + count }

theorem after_after (s : Supply) (m n : Nat) : (s.after m).after n = s.after (m + n) := by
  simp only [after, Nat.add_assoc]

def Differ (s : Supply) (count : Nat) : Prop :=
  ((List.range' s.drawn count).map s.stream).Nodup

instance (s : Supply) (count : Nat) : Decidable (s.Differ count) :=
  inferInstanceAs (Decidable (List.Nodup _))

def actionIds (s : Supply) (names : List String) : List String :=
  (names.zipIdx s.drawn).map (fun (name, i) => name ++ "-" ++ (s.stream i).text)

theorem actionIds_append (s : Supply) (names more : List String) :
    s.actionIds (names ++ more) = s.actionIds names ++ (s.after names.length).actionIds more := by
  rw [actionIds, List.zipIdx_append, List.map_append]
  rfl

theorem nodup_actionIds {s : Supply} {names : List String} (h : s.Differ names.length) :
    (s.actionIds names).Nodup := by
  have hdrawn : ((names.zipIdx s.drawn).map (fun p => s.stream p.2)).Nodup := by
    rw [Differ, ← List.zipIdx_map_snd, List.map_map] at h
    exact h
  rw [actionIds, List.Nodup, List.pairwise_map]
  rw [List.Nodup, List.pairwise_map] at hdrawn
  exact hdrawn.imp (fun hne heq => hne (Uuid.eq_of_append_text heq))

end Uuid.Supply

namespace Template

open Message

/-- The action templates that an order names: those of its nodes, then those of its
edges. -/
def OrderTemplate.names (t : OrderTemplate) : List String :=
  t.nodes.flatMap NodeTemplate.actionTemplateIds ++
    t.edges.flatMap EdgeTemplate.actionTemplateIds

def Catalog.lacks (c : Catalog) (name : String) : Bool :=
  (c.action? name).isNone

section

variable (c : Catalog)

/-- An action as its template has it, with an id of its own. -/
structure Instance (name : String) (a : Action) : Prop where
  template : ∃ t, c.action? name = some t ∧ a.actionType = t.actionType ∧
    a.description = t.description ∧ a.blocking = t.blocking ∧
    a.parameters.map (fun p => (p.key, p.value)) = t.parameters
  keyOrder : (a.parameters.map Parameter.key).Pairwise (· < ·)
  named : ∃ u : Uuid, a.actionId = name ++ "-" ++ u.text

structure NodeInstance (t : NodeTemplate) (n : Node) : Prop where
  nodeId : n.nodeId = t.nodeId
  sequenceId : n.sequenceId = t.sequenceId
  released : n.released = t.released
  position : n.position = t.position
  actions : List.Forall₂ (Instance c) t.actionTemplateIds n.actions

structure EdgeInstance (t : EdgeTemplate) (e : Edge) : Prop where
  edgeId : e.edgeId = t.edgeId
  sequenceId : e.sequenceId = t.sequenceId
  released : e.released = t.released
  startNodeId : e.startNodeId = t.startNodeId
  endNodeId : e.endNodeId = t.endNodeId
  actions : List.Forall₂ (Instance c) t.actionTemplateIds e.actions

/-!
# One step of an expansion after the other
-/

/-- What a step makes of some names: it makes something with actions for all of them, or it
stops at the first name that the catalog lacks. -/
inductive Makes {α : Type} (names : List String) (uuids : Uuid.Supply)
    (ids : α → List String) (good : α → Prop) : Except Missing (α × Uuid.Supply) → Prop where
  | missing {name : String} (h : names.find? c.lacks = some name) :
      Makes names uuids ids good (.error (.action name))
  | made {a : α} (h : names.find? c.lacks = none) (hids : ids a = uuids.actionIds names)
      (hgood : good a) : Makes names uuids ids good (.ok (a, uuids.after names.length))

variable {c}

theorem Makes.both {α β γ : Type} {names more : List String} {uuids : Uuid.Supply}
    {ids : α → List String} {ids' : β → List String} {ids'' : γ → List String}
    {good : α → Prop} {good' : β → Prop} {good'' : γ → Prop}
    {x : Except Missing (α × Uuid.Supply)} {y : Uuid.Supply → Except Missing (β × Uuid.Supply)}
    (join : α → β → γ) (hx : Makes c names uuids ids good x)
    (hy : ∀ uuids, Makes c more uuids ids' good' (y uuids))
    (hids : ∀ a b, ids'' (join a b) = ids a ++ ids' b)
    (hgood : ∀ a b, good a → good' b → good'' (join a b)) :
    Makes c (names ++ more) uuids ids'' good''
      (do
        let (a, uuids) ← x
        let (b, uuids) ← y uuids
        return (join a b, uuids)) := by
  cases hx with
  | missing h =>
      apply Makes.missing
      rw [List.find?_append, h, Option.some_or]
  | @made a h ha hgood_a =>
      have hy := hy (uuids.after names.length)
      simp only [bind, Except.bind]
      generalize y (uuids.after names.length) = result at hy
      cases hy with
      | missing h' =>
          apply Makes.missing
          rw [List.find?_append, h, h', Option.none_or]
      | @made b h' hb hgood_b =>
          rw [Uuid.Supply.after_after, ← List.length_append]
          refine Makes.made ?_ ?_ (hgood a b hgood_a hgood_b)
          · rw [List.find?_append, h, h', Option.none_or]
          · rw [hids, ha, hb, Uuid.Supply.actionIds_append]

/-!
# Actions, nodes and edges
-/

theorem instance_instantiate (hparameters : ∀ t ∈ c.actions, Json.Ascending t.parameters)
    {name : String} {t : ActionTemplate} (h : c.action? name = some t) (u : Uuid) :
    Instance c name (t.instantiate u) := by
  rcases Catalog.mem_of_action? h with ⟨hmem, rfl⟩
  refine ⟨⟨t, h, rfl, rfl, rfl, ?_⟩, ?_, u, rfl⟩
  · simp [ActionTemplate.instantiate, Function.comp_def]
  · rw [ActionTemplate.instantiate, List.pairwise_map, List.pairwise_map]
    exact hparameters t hmem

def one (c : Catalog) (name : String) (uuids : Uuid.Supply) :
    Except Missing (Action × Uuid.Supply) :=
  match c.action? name with
  | none => .error (.action name)
  | some t => .ok (t.instantiate uuids.draw.1, uuids.draw.2)

theorem makes_one (hparameters : ∀ t ∈ c.actions, Json.Ascending t.parameters)
    (name : String) (uuids : Uuid.Supply) :
    Makes c [name] uuids (fun a => [a.actionId]) (Instance c name) (one c name uuids) := by
  unfold one
  cases hfind : c.action? name with
  | none => exact Makes.missing (by simp [Catalog.lacks, hfind])
  | some t =>
      refine Makes.made ?_ ?_ (instance_instantiate hparameters hfind _)
      · simp [Catalog.lacks, hfind]
      · rw [(Catalog.mem_of_action? hfind).2.symm]
        rfl

theorem expandActions_cons (c : Catalog) (name : String) (names : List String)
    (uuids : Uuid.Supply) :
    (Library.ofCatalog c).expandActions (name :: names) uuids =
      (do
        let (a, uuids) ← one c name uuids
        let (actions, uuids) ← (Library.ofCatalog c).expandActions names uuids
        return (a :: actions, uuids)) := by
  rw [Library.expandActions, Library.find?_actions_ofCatalog, one]
  cases c.action? name <;> rfl

theorem makes_expandActions (hparameters : ∀ t ∈ c.actions, Json.Ascending t.parameters)
    (names : List String) (uuids : Uuid.Supply) :
    Makes c names uuids (List.map Action.actionId) (List.Forall₂ (Instance c) names)
      ((Library.ofCatalog c).expandActions names uuids) := by
  induction names generalizing uuids with
  | nil => exact Makes.made rfl rfl .nil
  | cons name names ih =>
      rw [expandActions_cons]
      exact Makes.both List.cons (makes_one hparameters name uuids) ih (fun _ _ => rfl)
        (fun _ _ => .cons)

def NodeTemplate.node (t : NodeTemplate) (actions : List Action) : Node :=
  { nodeId := t.nodeId
    sequenceId := t.sequenceId
    released := t.released
    position := t.position
    actions }

theorem makes_expandNodes (hparameters : ∀ t ∈ c.actions, Json.Ascending t.parameters)
    (ts : List NodeTemplate) (uuids : Uuid.Supply) :
    Makes c (ts.flatMap NodeTemplate.actionTemplateIds) uuids
      (fun nodes => (nodes.flatMap Node.actions).map Action.actionId)
      (List.Forall₂ (NodeInstance c) ts) ((Library.ofCatalog c).expandNodes ts uuids) := by
  induction ts generalizing uuids with
  | nil => exact Makes.made rfl rfl .nil
  | cons t ts ih =>
      rw [List.flatMap_cons]
      refine Makes.both (fun actions nodes => t.node actions :: nodes)
        (makes_expandActions hparameters t.actionTemplateIds uuids) ih ?_ ?_
      · intro actions nodes
        rw [List.flatMap_cons, List.map_append]
        rfl
      · intro actions nodes hactions hnodes
        exact .cons ⟨rfl, rfl, rfl, rfl, hactions⟩ hnodes

def EdgeTemplate.edge (t : EdgeTemplate) (actions : List Action) : Edge :=
  { edgeId := t.edgeId
    sequenceId := t.sequenceId
    released := t.released
    startNodeId := t.startNodeId
    endNodeId := t.endNodeId
    actions }

theorem makes_expandEdges (hparameters : ∀ t ∈ c.actions, Json.Ascending t.parameters)
    (ts : List EdgeTemplate) (uuids : Uuid.Supply) :
    Makes c (ts.flatMap EdgeTemplate.actionTemplateIds) uuids
      (fun edges => (edges.flatMap Edge.actions).map Action.actionId)
      (List.Forall₂ (EdgeInstance c) ts) ((Library.ofCatalog c).expandEdges ts uuids) := by
  induction ts generalizing uuids with
  | nil => exact Makes.made rfl rfl .nil
  | cons t ts ih =>
      rw [List.flatMap_cons]
      refine Makes.both (fun actions edges => t.edge actions :: edges)
        (makes_expandActions hparameters t.actionTemplateIds uuids) ih ?_ ?_
      · intro actions edges
        rw [List.flatMap_cons, List.map_append]
        rfl
      · intro actions edges hactions hedges
        exact .cons ⟨rfl, rfl, rfl, rfl, rfl, hactions⟩ hedges

/-!
# Graphs
-/

variable (c) in
structure GraphInstance (t : OrderTemplate) (g : Message.Graph) : Prop where
  nodes : List.Forall₂ (NodeInstance c) t.nodes g.nodes
  edges : List.Forall₂ (EdgeInstance c) t.edges g.edges

theorem expand_of_none {id : String} (h : c.order? id = none) (uuids : Uuid.Supply) :
    (Library.ofCatalog c).expand id uuids = .error (.order id) := by
  rw [Library.expand, Library.order?_ofCatalog, h]
  rfl

theorem makes_expand (hparameters : ∀ t ∈ c.actions, Json.Ascending t.parameters)
    {id : String} {t : OrderTemplate} (h : c.order? id = some t) (uuids : Uuid.Supply) :
    Makes c t.names uuids Message.Graph.actionIds (GraphInstance c t)
      ((Library.ofCatalog c).expand id uuids) := by
  rw [Library.expand, Library.order?_ofCatalog, h]
  exact Makes.both Message.Graph.mk (makes_expandNodes hparameters t.nodes uuids)
    (makes_expandEdges hparameters t.edges) (fun _ _ => List.map_append)
    (fun _ _ hnodes hedges => ⟨hnodes, hedges⟩)

theorem not_lacks_iff {name : String} :
    ¬ c.lacks name = true ↔ ∃ t, c.action? name = some t := by
  rw [Catalog.lacks, Option.isNone_iff_eq_none, ← ne_eq, Option.ne_none_iff_exists']

theorem find?_lacks_eq_none_iff {names : List String} :
    names.find? c.lacks = none ↔ ∀ name ∈ names, ∃ t, c.action? name = some t := by
  simp only [List.find?_eq_none, not_lacks_iff]

theorem find?_lacks_eq_some_iff {names : List String} {name : String} :
    names.find? c.lacks = some name ↔
      ∃ before after, names = before ++ name :: after ∧
        (∀ other ∈ before, ∃ t, c.action? other = some t) ∧ c.action? name = none := by
  rw [List.find?_eq_some_iff_append]
  simp only [Bool.not_eq_true', ← Bool.not_eq_true, not_lacks_iff]
  rw [Catalog.lacks, Option.isNone_iff_eq_none]
  constructor
  · rintro ⟨hname, before, after, hnames, hbefore⟩
    exact ⟨before, after, hnames, hbefore, hname⟩
  · rintro ⟨before, after, hnames, hbefore, hname⟩
    exact ⟨hname, before, after, hnames, hbefore⟩

variable (c) in
/-- What is expected of an expansion: all or nothing, and a graph that is true to its
template. -/
structure Expansion (id : String) (uuids : Uuid.Supply)
    (result : Except Missing (Message.Graph × Uuid.Supply)) : Prop where
  succeeds : (∃ g rest, result = .ok (g, rest)) ↔
    ∃ t, c.order? id = some t ∧ ∀ name ∈ t.names, ∃ a, c.action? name = some a
  graph : ∀ {g rest}, result = .ok (g, rest) →
    ∃ t, c.order? id = some t ∧ GraphInstance c t g ∧
      g.actionIds = uuids.actionIds t.names ∧ rest = uuids.after t.names.length ∧
      (uuids.Differ t.names.length → g.actionIds.Nodup)
  orderMissing : ∀ other, result = .error (.order other) ↔
    other = id ∧ c.order? id = none
  actionMissing : ∀ name, result = .error (.action name) ↔
    ∃ t before after, c.order? id = some t ∧ t.names = before ++ name :: after ∧
      (∀ other ∈ before, ∃ a, c.action? other = some a) ∧ c.action? name = none

/-- An order template is expanded exactly if the catalog has it and all that it names; the
last template of an id counts.  The parameters of an action template are to ascend by their
keys, as they do in every catalog that is read. -/
theorem expansion_expand (c : Catalog)
    (hparameters : ∀ t ∈ c.actions, Json.Ascending t.parameters) (id : String)
    (uuids : Uuid.Supply) : Expansion c id uuids ((Library.ofCatalog c).expand id uuids) := by
  cases horder : c.order? id with
  | none =>
      rw [expand_of_none horder]
      constructor
      · simp [horder]
      · intro g rest h
        cases h
      · simp [horder, eq_comm]
      · simp [horder]
  | some t =>
      have hall : (∃ t', c.order? id = some t' ∧ ∀ name ∈ t'.names, ∃ a, c.action? name = some a) ↔
          t.names.find? c.lacks = none := by
        simp only [horder, Option.some.injEq, exists_eq_left', find?_lacks_eq_none_iff]
      have hfirst : ∀ {name}, (∃ t' before after, c.order? id = some t' ∧
          t'.names = before ++ name :: after ∧ (∀ other ∈ before, ∃ a, c.action? other = some a) ∧
            c.action? name = none) ↔ t.names.find? c.lacks = some name := by
        intro name
        simp only [horder, Option.some.injEq, exists_and_left, exists_eq_left',
          find?_lacks_eq_some_iff]
      have hmakes := makes_expand hparameters horder uuids
      generalize (Library.ofCatalog c).expand id uuids = result at hmakes
      cases hmakes with
      | @missing name h =>
          constructor
          · rw [hall, h]
            simp
          · intro g rest hok
            cases hok
          · simp [horder]
          · intro other
            rw [hfirst, h]
            simp
      | @made g h hids hgood =>
          constructor
          · rw [hall, h]
            simp
          · intro g' rest hok
            cases hok
            refine ⟨t, horder, hgood, hids, rfl, ?_⟩
            intro hfresh
            rw [hids]
            exact Uuid.Supply.nodup_actionIds hfresh
          · simp [horder]
          · intro other
            rw [hfirst, h]
            simp

end

def shuttles : Catalog where
  actions :=
    [{ id := "pick", actionType := "pick", blocking := .none, description := none
       parameters := [] },
      { id := "beep", actionType := "beep", blocking := .none, description := none
        parameters := [] },
      { id := "pick", actionType := "pick", blocking := .hard, description := some "lift"
        parameters := [("height", .string "low"), ("stationType", .string "floor")] }]
  orders :=
    [{ id := "shuttle", name := "", nodes := [], edges := [] },
      { id := "shuttle"
        name := "A to B"
        nodes :=
          [{ nodeId := "A", sequenceId := 0, released := true, position := none
             actionTemplateIds := ["pick", "pick"] },
            { nodeId := "B", sequenceId := 2, released := false, position := none
              actionTemplateIds := [] }]
        edges :=
          [{ edgeId := "A-B", sequenceId := 1, released := true, startNodeId := "A"
             endNodeId := "B", actionTemplateIds := ["beep"] }] }]

theorem expansion_expand_shuttles :
    ((Library.ofCatalog shuttles).expand "shuttle" (.ofSeed 0)).toOption.map
        (fun made => made.1.actions.map Action.blocking) = some [.hard, .hard, .none] ∧
      (Uuid.Supply.ofSeed 0).Differ 3 ∧
      Expansion shuttles "shuttle" (.ofSeed 0)
        ((Library.ofCatalog shuttles).expand "shuttle" (.ofSeed 0)) := by
  have hparameters : ∀ t ∈ shuttles.actions, Json.Ascending t.parameters := by
    intro t ht
    simp only [shuttles, List.mem_cons, List.not_mem_nil, or_false] at ht
    rcases ht with rfl | rfl | rfl
    all_goals
      unfold Json.Ascending
      decide
  exact ⟨by decide +kernel, by decide +kernel,
    expansion_expand shuttles hparameters "shuttle" (.ofSeed 0)⟩

end Template
end FleetBridge
