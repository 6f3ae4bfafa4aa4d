import FleetBridge.Message.Request
import FleetBridge.Proofs.Message.Envelope
import FleetBridge.Proofs.Text.Utf8

/-!
# Envelopes over the wire

The bytes of an envelope carry no tag, and yet a receiver that reads them as an order
and as instant actions is never in doubt: an order has no list of actions of its own,
and instant actions have no order id.  What is read is the envelope that was built.
-/

namespace FleetBridge
namespace Message

open Json

namespace Content

def isOrder : Content → Bool
  | order _ _ _ => true
  | _ => false

def nodes : Content → List Node
  | order _ _ graph => graph.nodes
  | _ => []

def actions : Content → List Action
  | order _ _ graph => graph.actions
  | instantActions actions => actions
  | _ => []

end Content

namespace Envelope

def order? : Envelope → Option Order
  | order o => some o
  | _ => none

def instantActions? : Envelope → Option InstantActions
  | order _ => none
  | instantActions i => some i
  | factsheetRequest i => some i
  | initPosition i => some i

def doubles : Envelope → List Float
  | order o => o.doubles
  | instantActions i => i.doubles
  | factsheetRequest i => i.doubles
  | initPosition i => i.doubles

def IsNormal : Envelope → Prop
  | order o => o.IsNormal
  | instantActions i => i.IsNormal
  | factsheetRequest i => i.IsNormal
  | initPosition i => i.IsNormal

/-! # Telling the two apart -/

theorem read?_order_write (room : Nat) (i : InstantActions) :
    Order.codec.read? room (InstantActions.codec.write i) = none :=
  congrArg (Option.map _)
    (Layout.read?_members_eq_none (n := "orderId") (by decide) (by decide))

theorem read?_instantActions_write (room : Nat) (o : Order) :
    InstantActions.codec.read? room (Order.codec.write o) = none :=
  congrArg (Option.map _)
    (Layout.read?_members_eq_none (n := "actions") (by decide) (by decide))

theorem isUnbroken_toTerm (e : Envelope) : e.toTerm.IsUnbroken := by
  cases e with
  | order o => exact Order.faithful_codec.isUnbroken_write o
  | instantActions i => exact InstantActions.faithful_codec.isUnbroken_write i
  | factsheetRequest i => exact InstantActions.faithful_codec.isUnbroken_write i
  | initPosition i => exact InstantActions.faithful_codec.isUnbroken_write i

theorem ofGlyphs?_wire (e : Envelope) :
    Term.ofGlyphs? (Text.glyphs e.wire.toUTF8.toList) = some e.toTerm := by
  rw [Text.glyphs_toUTF8, wire, Term.render, String.toList_ofList,
    Term.ofGlyphs?_chars e.isUnbroken_toTerm]

theorem toOption_parse_wire {α : Type} (c : Codec α) (e : Envelope) :
    (c.parse (Text.glyphs e.wire.toUTF8.toList)).toOption = c.read? maxDepth e.toTerm := by
  rw [Codec.toOption_parse, ofGlyphs?_wire, Option.bind_some]

theorem read?_order_toTerm {e : Envelope} (hnormal : e.IsNormal)
    (hdepth : e.toTerm.depth ≤ maxDepth) (hback : ∀ x ∈ e.doubles, ReadsBack x) :
    Order.codec.read? maxDepth e.toTerm = e.order? := by
  cases e with
  | order o => exact Order.faithful_codec.read?_write hnormal hdepth hback
  | instantActions i => exact read?_order_write maxDepth i
  | factsheetRequest i => exact read?_order_write maxDepth i
  | initPosition i => exact read?_order_write maxDepth i

theorem read?_instantActions_toTerm {e : Envelope} (hnormal : e.IsNormal)
    (hdepth : e.toTerm.depth ≤ maxDepth) (hback : ∀ x ∈ e.doubles, ReadsBack x) :
    InstantActions.codec.read? maxDepth e.toTerm = e.instantActions? := by
  cases e with
  | order o => exact read?_instantActions_write maxDepth o
  | instantActions i => exact InstantActions.faithful_codec.read?_write hnormal hdepth hback
  | factsheetRequest i => exact InstantActions.faithful_codec.read?_write hnormal hdepth hback
  | initPosition i => exact InstantActions.faithful_codec.read?_write hnormal hdepth hback

end Envelope

/-! # What is built -/

theorem isOrdered_ofFloat (x : Float) : (Value.ofFloat x).IsOrdered := by
  unfold Value.ofFloat
  cases Number.ofFloat? x with
  | none => exact .null
  | some n => exact .number n

theorem Action.isNormal_askFactsheet (u : Uuid) : (Action.askFactsheet u).IsNormal :=
  fun _ hp => absurd hp List.not_mem_nil

theorem Action.isNormal_setPosition (u : Uuid) (pose : Pose) :
    (Action.setPosition u pose).IsNormal := by
  intro p hp
  rcases List.mem_append.mp hp with hp | hp
  · simp only [List.mem_cons, List.not_mem_nil, or_false] at hp
    rcases hp with rfl | rfl | rfl | rfl
    · exact isOrdered_ofFloat pose.x
    · exact isOrdered_ofFloat pose.y
    · exact isOrdered_ofFloat pose.theta
    · exact .string pose.mapId
  · obtain ⟨n, _, rfl⟩ := Option.map_eq_some_iff.mp (Option.mem_toList.mp hp)
    exact .string n

theorem Graph.isNormal_of_actions {g : Graph}
    (hfinite : ∀ n ∈ g.nodes, ∀ p ∈ n.position, p.IsFinite)
    (hordered : ∀ a ∈ g.actions, a.IsNormal) :
    (∀ n ∈ g.nodes, n.IsNormal) ∧ ∀ e ∈ g.edges, e.IsNormal := by
  obtain ⟨hnodes, hedges⟩ := List.forall_mem_append.mp hordered
  refine ⟨fun n hn => ⟨hfinite n hn, ?_⟩, ?_⟩
  · exact fun a ha => hnodes a (List.mem_flatMap_of_mem hn ha)
  · exact fun e he a ha => hedges a (List.mem_flatMap_of_mem he ha)

namespace Request

theorem isNormal_envelope {r : Request} {now : Time.Instant} (hnow : now.IsLegible)
    (hfinite : ∀ n ∈ r.content.nodes, ∀ p ∈ n.position, p.IsFinite)
    (hordered : ∀ a ∈ r.content.actions, a.IsNormal) (headerId : UInt64) (uuids : Uuid.Supply) :
    (r.envelope headerId now uuids).1.IsNormal := by
  obtain ⟨address, content, headerId?⟩ := r
  cases content with
  | order orderId orderUpdateId graph =>
      exact ⟨hnow, Graph.isNormal_of_actions hfinite hordered⟩
  | instantActions actions => exact ⟨hnow, hordered⟩
  | factsheet =>
      exact ⟨hnow, List.forall_mem_singleton.mpr (Action.isNormal_askFactsheet uuids.draw.1)⟩
  | initPosition pose =>
      exact ⟨hnow, List.forall_mem_singleton.mpr (Action.isNormal_setPosition uuids.draw.1 pose)⟩

theorem isSome_envelope (r : Request) (headerId : UInt64) (now : Time.Instant)
    (uuids : Uuid.Supply) :
    (r.envelope headerId now uuids).1.order?.isSome = r.content.isOrder ∧
      (r.envelope headerId now uuids).1.instantActions?.isSome = !r.content.isOrder := by
  obtain ⟨address, content, headerId?⟩ := r
  cases content <;> exact ⟨rfl, rfl⟩

/-- The bytes of a built envelope are read as that envelope and as nothing else: those of
an order as that order and never as instant actions, all others as their instant actions
and never as an order.  The members of objects are to ascend as they do in every value
that is read. -/
theorem parse_wire_build (r : Request) {now : Time.Moment} (hnow : now.IsDatable)
    (ids : HeaderIds) (uuids : Uuid.Supply)
    (hfinite : ∀ n ∈ r.content.nodes, ∀ p ∈ n.position, p.IsFinite)
    (hordered : ∀ a ∈ r.content.actions, a.IsNormal)
    {e : Envelope} (hbuild : e = (r.build now.instant ids uuids).1)
    (hdepth : e.toTerm.depth ≤ maxDepth) (hback : ∀ x ∈ e.doubles, ReadsBack x) :
    (Order.codec.parse (Text.glyphs e.wire.toUTF8.toList)).toOption = e.order? ∧
      (InstantActions.codec.parse (Text.glyphs e.wire.toUTF8.toList)).toOption =
        e.instantActions? ∧
      e.order?.isSome = r.content.isOrder ∧ e.instantActions?.isSome = !r.content.isOrder := by
  have hlegible : now.instant.IsLegible := (Time.Moment.isDatable_instant hnow).isLegible
  have hnormal : e.IsNormal :=
    hbuild ▸ isNormal_envelope hlegible hfinite hordered (ids.take r).1 uuids
  refine ⟨?_, ?_, ?_⟩
  · rw [Envelope.toOption_parse_wire, Envelope.read?_order_toTerm hnormal hdepth hback]
  · rw [Envelope.toOption_parse_wire, Envelope.read?_instantActions_toTerm hnormal hdepth hback]
  · rw [hbuild]
    exact isSome_envelope r (ids.take r).1 now.instant uuids

def crossing : Request :=
  { address := { device := "agv \"7\"\n", manufacturer := "Fäktory \x01 𝄞" }
    content :=
      .order "o\\1" 18446744073709551615
        { nodes :=
            [{ nodeId := "n1"
               sequenceId := 0
               released := true
               position := some { x := 0.1, y := -0.0, theta := some 1e22, mapId := "" }
               actions :=
                 [{ actionType := "pick"
                    actionId := "a1"
                    description := some "null"
                    blocking := .soft
                    parameters :=
                      [⟨"load", .object
                          [("", .null),
                            ("kg", .array
                              [.number (.integer (-9223372036854775808) (by decide)),
                                .number (.real 1e-7 (by decide +kernel))])]⟩,
                        ⟨"load", .bool false⟩] }] },
              { nodeId := "n2"
                sequenceId := 2
                released := false
                position := none
                actions := [] }]
          edges :=
            [{ edgeId := "e1"
               sequenceId := 4294967295
               released := false
               startNodeId := "n1"
               endNodeId := "n2"
               actions := [] }] }
    headerId? := some 18446744073709551615 }

theorem parse_wire_build_crossing :
    let e := (crossing.build ((⟨0, 0⟩ : Time.Moment)).instant .empty (.ofSeed 0)).1
    (Order.codec.parse (Text.glyphs e.wire.toUTF8.toList)).toOption = e.order? ∧
      (InstantActions.codec.parse (Text.glyphs e.wire.toUTF8.toList)).toOption =
        e.instantActions? ∧
      e.order?.isSome = true ∧ e.instantActions?.isSome = false := by
  intro e
  have hnow : (⟨0, 0⟩ : Time.Moment).IsDatable := by decide
  have hfinite : ∀ n ∈ crossing.content.nodes, ∀ p ∈ n.position, p.IsFinite := by
    intro n hn p hp
    simp only [crossing, Content.nodes, List.mem_cons, List.not_mem_nil, or_false] at hn
    rcases hn with rfl | rfl
    · cases hp
      unfold NodePosition.IsFinite
      decide +kernel
    · cases hp
  have hordered : ∀ a ∈ crossing.content.actions, a.IsNormal := by
    intro a ha p hp
    obtain rfl := List.mem_singleton.mp ha
    simp only [List.mem_cons, List.not_mem_nil, or_false] at hp
    rcases hp with rfl | rfl
    · refine .object (by unfold Ascending; decide) ?_
      intro m hm
      simp only [List.mem_cons, List.not_mem_nil, or_false] at hm
      rcases hm with rfl | rfl
      · exact .null
      · refine .array ?_
        intro v hv
        simp only [List.mem_cons, List.not_mem_nil, or_false] at hv
        rcases hv with rfl | rfl <;> exact .number _
    · exact .bool false
  have hdepth : e.toTerm.depth ≤ maxDepth := by decide +kernel
  have hback : ∀ x ∈ e.doubles, ReadsBack x := by
    have h : e.doubles = [0.1, -0.0, 1e22, 1e-7] := rfl
    rw [h]
    intro x hx
    simp only [List.mem_cons, List.not_mem_nil, or_false] at hx
    rcases hx with rfl | rfl | rfl | rfl
    all_goals
      unfold ReadsBack
      decide +kernel
  exact parse_wire_build crossing hnow .empty (.ofSeed 0) hfinite hordered rfl hdepth hback

end Request
end Message
end FleetBridge
