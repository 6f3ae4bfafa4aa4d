import FleetBridge.Proofs.Json.Record
import FleetBridge.Record.Basic

/-!
# Records read back
-/

namespace FleetBridge
namespace Record

open Json

theorem Status.plain_codec {need : Nat} : Status.codec.Plain need :=
  Codec.plain_word (by rintro ⟨⟩ <;> rfl)

def IsNormal (r : Record) : Prop :=
  r.createdAt.IsLegible ∧ (∀ i ∈ r.startedAt, i.IsLegible) ∧ ∀ i ∈ r.completedAt, i.IsLegible

theorem faithful_codec : codec.Faithful (fun _ => []) IsNormal 1 :=
  Layout.Faithful.codec
    (.field (Field.faithful_required Codec.plain_text) <|
      .field (Field.faithful_nullable Codec.plain_text (fun _ _ => Term.noConfusion)) <|
        .field (Field.faithful_required Codec.plain_text) <|
          .field (Field.faithful_required Codec.plain_uint64) <|
            .field (Field.faithful_required Status.plain_codec) <|
              .field (Field.faithful_nullable Codec.plain_text (fun _ _ => Term.noConfusion)) <|
                .field (Field.faithful_required Codec.faithful_instant) <|
                  .field (Field.faithful_nullable Codec.faithful_instant
                    (fun _ _ => Term.noConfusion)) <|
                    .field (Field.faithful_nullable Codec.faithful_instant
                      (fun _ _ => Term.noConfusion)) <|
                      .done)
    (by decide) (fun _ => rfl) (fun _ => rfl)
    (fun _ => by simp)
    (fun r => by simp [IsNormal])

end Record
end FleetBridge
