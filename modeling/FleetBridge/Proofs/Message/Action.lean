import FleetBridge.Message.Action
import FleetBridge.Proofs.Json.Record

/-!
# Actions read back
-/

namespace FleetBridge
namespace Message

open Json

theorem Blocking.plain_codec {need : Nat} : Blocking.codec.Plain need :=
  Codec.plain_word (by rintro ⟨⟩ <;> rfl)

namespace Parameter

def doubles (p : Parameter) : List Float :=
  p.value.doubles

def IsNormal (p : Parameter) : Prop :=
  p.value.IsOrdered

theorem faithful_codec : codec.Faithful doubles IsNormal 1 :=
  Layout.Faithful.codec
    (.field (Field.faithful_required Codec.plain_text) <|
      .field (Field.faithful_required Codec.faithful_value) <|
        .done)
    (by decide) (fun _ => rfl) (fun _ => rfl)
    (fun p => by simp [doubles])
    (fun p => by simp [IsNormal])

end Parameter

namespace Action

def doubles (a : Action) : List Float :=
  a.parameters.flatMap Parameter.doubles

def IsNormal (a : Action) : Prop :=
  ∀ p ∈ a.parameters, p.IsNormal

theorem faithful_codec : codec.Faithful doubles IsNormal 3 :=
  Layout.Faithful.codec
    (.field (Field.faithful_required Codec.plain_text) <|
      .field (Field.faithful_required Codec.plain_text) <|
        .field (Field.faithful_optional Codec.plain_text (fun _ _ => Term.noConfusion)) <|
          .field (Field.faithful_required Blocking.plain_codec) <|
            .field (Field.faithful_defaulted Parameter.faithful_codec.list
              (fun _ hp => absurd hp List.not_mem_nil) (by decide)) <|
              .done)
    (by decide) (fun _ => rfl) (fun _ => rfl)
    (fun a => by simp [doubles])
    (fun a => by simp [IsNormal])

end Action
end Message
end FleetBridge
