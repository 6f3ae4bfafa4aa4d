import FleetBridge.Proofs.Message.Graph
import FleetBridge.Template.Basic

/-!
# Catalogs read back
-/

namespace FleetBridge
namespace Template

open Json Message

namespace ActionTemplate

def doubles (t : ActionTemplate) : List Float :=
  t.parameters.flatMap (fun p => p.2.doubles)

def IsNormal (t : ActionTemplate) : Prop :=
  Ascending t.parameters ∧ ∀ p ∈ t.parameters, p.2.IsOrdered

theorem faithful_codec : codec.Faithful doubles IsNormal 2 :=
  Layout.Faithful.codec
    (.field (Field.faithful_required Codec.plain_text) <|
      .field (Field.faithful_required Codec.plain_text) <|
        .field (Field.faithful_defaulted Blocking.plain_codec trivial (Nat.zero_le _)) <|
          .field (Field.faithful_optional Codec.plain_text (fun _ _ => Term.noConfusion)) <|
            .field (Field.faithful_defaulted Codec.faithful_value.members
              ⟨List.Pairwise.nil, fun _ hp => absurd hp List.not_mem_nil⟩ (by decide)) <|
              .done)
    (by decide) (fun _ => rfl) (fun _ => rfl)
    (fun t => by simp [doubles])
    (fun t => by simp [IsNormal])

end ActionTemplate

namespace NodeTemplate

def doubles (n : NodeTemplate) : List Float :=
  n.position.toList.flatMap NodePosition.doubles

def IsNormal (n : NodeTemplate) : Prop :=
  ∀ p ∈ n.position, p.IsFinite

theorem faithful_codec : codec.Faithful doubles IsNormal 2 :=
  Layout.Faithful.codec
    (.field (Field.faithful_required Codec.plain_text) <|
      .field (Field.faithful_required Codec.plain_uint32) <|
        .field (Field.faithful_defaulted Codec.plain_bool trivial (Nat.zero_le _)) <|
          .field (Field.faithful_optional NodePosition.faithful_codec
            (fun _ _ => Term.noConfusion)) <|
            .field (Field.faithful_defaulted Codec.plain_text.list
              (fun _ _ => trivial) (by decide)) <|
              .done)
    (by decide) (fun _ => rfl) (fun _ => rfl)
    (fun n => by simp [doubles])
    (fun n => by simp [IsNormal])

end NodeTemplate

theorem EdgeTemplate.plain_codec : EdgeTemplate.codec.Plain 2 :=
  Layout.Faithful.codec
    (.field (Field.faithful_required Codec.plain_text) <|
      .field (Field.faithful_required Codec.plain_uint32) <|
        .field (Field.faithful_defaulted Codec.plain_bool trivial (Nat.zero_le _)) <|
          .field (Field.faithful_required Codec.plain_text) <|
            .field (Field.faithful_required Codec.plain_text) <|
              .field (Field.faithful_defaulted Codec.plain_text.list
                (fun _ _ => trivial) (by decide)) <|
                .done)
    (by decide) (fun _ => rfl) (fun _ => rfl)
    (fun _ => by simp)
    (fun _ => by simp)

namespace OrderTemplate

def doubles (t : OrderTemplate) : List Float :=
  t.nodes.flatMap NodeTemplate.doubles

def IsNormal (t : OrderTemplate) : Prop :=
  ∀ n ∈ t.nodes, n.IsNormal

theorem faithful_codec : codec.Faithful doubles IsNormal 4 :=
  Layout.Faithful.codec
    (.field (Field.faithful_required Codec.plain_text) <|
      .field (Field.faithful_defaulted Codec.plain_text trivial (Nat.zero_le _)) <|
        .field (Field.faithful_defaulted NodeTemplate.faithful_codec.list
          (fun _ hn => absurd hn List.not_mem_nil) (by decide)) <|
          .field (Field.faithful_defaulted EdgeTemplate.plain_codec.list
            (fun _ _ => trivial) (by decide)) <|
            .done)
    (by decide) (fun _ => rfl) (fun _ => rfl)
    (fun t => by simp [doubles])
    (fun t => by simp [IsNormal])

end OrderTemplate

namespace Catalog

def doubles (c : Catalog) : List Float :=
  c.actions.flatMap ActionTemplate.doubles ++ c.orders.flatMap OrderTemplate.doubles

def IsNormal (c : Catalog) : Prop :=
  (∀ t ∈ c.actions, t.IsNormal) ∧ ∀ t ∈ c.orders, t.IsNormal

theorem faithful_codec : codec.Faithful doubles IsNormal 6 :=
  Layout.Faithful.codec
    (.field (Field.faithful_defaulted (ActionTemplate.faithful_codec.mono (by decide)).list
      (fun _ ht => absurd ht List.not_mem_nil) (by decide)) <|
      .field (Field.faithful_defaulted OrderTemplate.faithful_codec.list
        (fun _ ht => absurd ht List.not_mem_nil) (by decide)) <|
        .done)
    (by decide) (fun _ => rfl) (fun _ => rfl)
    (fun c => by simp [doubles])
    (fun c => by simp [IsNormal])

end Catalog
end Template
end FleetBridge
