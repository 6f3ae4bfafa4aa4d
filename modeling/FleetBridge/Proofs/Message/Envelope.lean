import FleetBridge.Message.Envelope
import FleetBridge.Proofs.Message.Graph

/-!
# Orders and instant actions read back
-/

namespace FleetBridge
namespace Message

open Json

namespace Order

def doubles (o : Order) : List Float :=
  o.graph.nodes.flatMap Node.doubles ++ o.graph.edges.flatMap Edge.doubles

def IsNormal (o : Order) : Prop :=
  o.timestamp.IsLegible ∧ (∀ n ∈ o.graph.nodes, n.IsNormal) ∧ ∀ e ∈ o.graph.edges, e.IsNormal

theorem faithful_codec : codec.Faithful doubles IsNormal 7 :=
  Layout.Faithful.codec
    (.field (Field.faithful_required Codec.plain_uint64) <|
      .field (Field.faithful_required Codec.faithful_instant) <|
        .field (Field.faithful_required Codec.plain_text) <|
          .field (Field.faithful_required Codec.plain_text) <|
            .field (Field.faithful_required Codec.plain_text) <|
              .field (Field.faithful_required Codec.plain_text) <|
                .field (Field.faithful_required Codec.plain_uint64) <|
                  .field (Field.faithful_required Node.faithful_codec.list) <|
                    .field (Field.faithful_required Edge.faithful_codec.list) <|
                      .done)
    (by decide) (fun _ => rfl) (fun _ => rfl)
    (fun o => by simp [doubles])
    (fun o => by simp [IsNormal])

end Order

namespace InstantActions

def doubles (i : InstantActions) : List Float :=
  i.actions.flatMap Action.doubles

def IsNormal (i : InstantActions) : Prop :=
  i.timestamp.IsLegible ∧ ∀ a ∈ i.actions, a.IsNormal

theorem faithful_codec : codec.Faithful doubles IsNormal 5 :=
  Layout.Faithful.codec
    (.field (Field.faithful_required Codec.plain_uint64) <|
      .field (Field.faithful_required Codec.faithful_instant) <|
        .field (Field.faithful_required Codec.plain_text) <|
          .field (Field.faithful_required Codec.plain_text) <|
            .field (Field.faithful_required Codec.plain_text) <|
              .field (Field.faithful_required Action.faithful_codec.list) <|
                .done)
    (by decide) (fun _ => rfl) (fun _ => rfl)
    (fun i => by simp [doubles])
    (fun i => by simp [IsNormal])

end InstantActions
end Message
end FleetBridge
