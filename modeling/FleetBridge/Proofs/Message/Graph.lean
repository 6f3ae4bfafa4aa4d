import FleetBridge.Message.Graph
import FleetBridge.Proofs.Message.Action

/-!
# Nodes, edges and poses read back
-/

namespace FleetBridge
namespace Message

open Json

namespace NodePosition

def doubles (p : NodePosition) : List Float :=
  [p.x, p.y] ++ p.theta.toList

def IsFinite (p : NodePosition) : Prop :=
  p.x.isFinite = true ∧ p.y.isFinite = true ∧ ∀ theta ∈ p.theta, theta.isFinite = true

theorem faithful_codec : codec.Faithful doubles IsFinite 1 :=
  Layout.Faithful.codec
    (.field (Field.faithful_required Codec.faithful_float) <|
      .field (Field.faithful_required Codec.faithful_float) <|
        .field (Field.faithful_optional Codec.faithful_float Codec.write_float_ne_null) <|
          .field (Field.faithful_required Codec.plain_text) <|
            .done)
    (by decide) (fun _ => rfl) (fun _ => rfl)
    (fun p => by simp [doubles])
    (fun p => by simp [IsFinite])

end NodePosition

namespace Node

def doubles (n : Node) : List Float :=
  n.position.toList.flatMap NodePosition.doubles ++ n.actions.flatMap Action.doubles

def IsNormal (n : Node) : Prop :=
  (∀ p ∈ n.position, p.IsFinite) ∧ ∀ a ∈ n.actions, a.IsNormal

theorem faithful_codec : codec.Faithful doubles IsNormal 5 :=
  Layout.Faithful.codec
    (.field (Field.faithful_required Codec.plain_text) <|
      .field (Field.faithful_required Codec.plain_uint32) <|
        .field (Field.faithful_required Codec.plain_bool) <|
          .field (Field.faithful_optional (NodePosition.faithful_codec.mono (by decide))
            (fun _ _ => Term.noConfusion)) <|
            .field (Field.faithful_defaulted Action.faithful_codec.list
              (fun _ ha => absurd ha List.not_mem_nil) (by decide)) <|
              .done)
    (by decide) (fun _ => rfl) (fun _ => rfl)
    (fun n => by simp [doubles])
    (fun n => by simp [IsNormal])

end Node

namespace Edge

def doubles (e : Edge) : List Float :=
  e.actions.flatMap Action.doubles

def IsNormal (e : Edge) : Prop :=
  ∀ a ∈ e.actions, a.IsNormal

theorem faithful_codec : codec.Faithful doubles IsNormal 5 :=
  Layout.Faithful.codec
    (.field (Field.faithful_required Codec.plain_text) <|
      .field (Field.faithful_required Codec.plain_uint32) <|
        .field (Field.faithful_required Codec.plain_bool) <|
          .field (Field.faithful_required Codec.plain_text) <|
            .field (Field.faithful_required Codec.plain_text) <|
              .field (Field.faithful_defaulted Action.faithful_codec.list
                (fun _ ha => absurd ha List.not_mem_nil) (by decide)) <|
                .done)
    (by decide) (fun _ => rfl) (fun _ => rfl)
    (fun e => by simp [doubles])
    (fun e => by simp [IsNormal])

end Edge

namespace Pose

def doubles (p : Pose) : List Float :=
  [p.x, p.y, p.theta]

def IsFinite (p : Pose) : Prop :=
  p.x.isFinite = true ∧ p.y.isFinite = true ∧ p.theta.isFinite = true

theorem faithful_codec : codec.Faithful doubles IsFinite 1 :=
  Layout.Faithful.codec
    (.field (Field.faithful_required Codec.faithful_float) <|
      .field (Field.faithful_required Codec.faithful_float) <|
        .field (Field.faithful_required Codec.faithful_float) <|
          .field (Field.faithful_required Codec.plain_text) <|
            .field (Field.faithful_optional Codec.plain_text (fun _ _ => Term.noConfusion)) <|
              .done)
    (by decide) (fun _ => rfl) (fun _ => rfl)
    (fun p => by simp [doubles])
    (fun p => by simp [IsFinite])

end Pose
end Message
end FleetBridge
