import FleetBridge.Message.Telemetry
import FleetBridge.Proofs.Json.Record

/-!
# Reports read back

What robots report holds no doubles.  Its times are legible, and the counts of a
summary fit 64 bits.
-/

namespace FleetBridge
namespace Message

open Json

theorem ActionStatus.plain_codec {need : Nat} : ActionStatus.codec.Plain need :=
  Codec.plain_word (by rintro ⟨⟩ <;> rfl)

theorem ConnectionStatus.plain_codec {need : Nat} : ConnectionStatus.codec.Plain need :=
  Codec.plain_word (by rintro ⟨⟩ <;> rfl)

theorem Verdict.plain_codec {need : Nat} : Verdict.codec.Plain need :=
  Codec.plain_word (by rintro ⟨⟩ <;> rfl)

theorem ActionState.plain_codec : ActionState.codec.Plain 1 :=
  Layout.Faithful.codec
    (.field (Field.faithful_required Codec.plain_text) <|
      .field (Field.faithful_optional Codec.plain_text (fun _ _ => Term.noConfusion)) <|
        .field (Field.faithful_required ActionStatus.plain_codec) <|
          .field (Field.faithful_optional Codec.plain_text (fun _ _ => Term.noConfusion)) <|
            .done)
    (by decide) (fun _ => rfl) (fun _ => rfl)
    (fun _ => by simp)
    (fun s => by simp)

theorem Fault.plain_codec : Fault.codec.Plain 1 :=
  Layout.Faithful.codec
    (.field (Field.faithful_required Codec.plain_text) <|
      .field (Field.faithful_defaulted Codec.plain_text trivial (Nat.zero_le _)) <|
        .field (Field.faithful_optional Codec.plain_text (fun _ _ => Term.noConfusion)) <|
          .done)
    (by decide) (fun _ => rfl) (fun _ => rfl)
    (fun _ => by simp)
    (fun f => by simp)

namespace Summary

def IsNormal (s : Summary) : Prop :=
  s.errorCount < UInt64.size ∧ s.runningActions < UInt64.size

theorem faithful_codec : codec.Faithful (fun _ => []) IsNormal 1 :=
  Layout.Faithful.codec
    (.field (Field.faithful_required Codec.plain_text) <|
      .field (Field.faithful_required Codec.plain_text) <|
        .field (Field.faithful_required Codec.plain_bool) <|
          .field (Field.faithful_required Codec.plain_bool) <|
            .field (Field.faithful_nullable Codec.plain_text (fun _ _ => Term.noConfusion)) <|
              .field (Field.faithful_required Codec.faithful_count) <|
                .field (Field.faithful_required Codec.faithful_count) <|
                  .done)
    (by decide) (fun _ => rfl) (fun _ => rfl)
    (fun _ => by simp)
    (fun s => by simp [IsNormal])

end Summary

namespace State

def IsNormal (s : State) : Prop :=
  ∀ i ∈ s.timestamp, i.IsLegible

theorem faithful_codec : codec.Faithful (fun _ => []) IsNormal 3 :=
  Layout.Faithful.codec
    (.field (Field.faithful_defaulted Codec.plain_uint64 trivial (Nat.zero_le _)) <|
      .field (Field.faithful_optional Codec.faithful_instant (fun _ _ => Term.noConfusion)) <|
        .field (Field.faithful_defaulted Codec.plain_text trivial (Nat.zero_le _)) <|
          .field (Field.faithful_required Codec.plain_text) <|
            .field (Field.faithful_defaulted Codec.plain_text trivial (Nat.zero_le _)) <|
              .field (Field.faithful_defaulted Codec.plain_uint64 trivial (Nat.zero_le _)) <|
                .field (Field.faithful_defaulted Codec.plain_text trivial (Nat.zero_le _)) <|
                  .field (Field.faithful_defaulted Codec.plain_bool trivial (Nat.zero_le _)) <|
                    .field (Field.faithful_defaulted Codec.plain_bool trivial (Nat.zero_le _)) <|
                      .field (Field.faithful_optional Codec.plain_text
                        (fun _ _ => Term.noConfusion)) <|
                        .field (Field.faithful_defaulted ActionState.plain_codec.list
                          (fun _ _ => trivial) (by decide)) <|
                          .field (Field.faithful_defaulted Fault.plain_codec.list
                            (fun _ _ => trivial) (by decide)) <|
                            .done)
    (by decide) (fun _ => rfl) (fun _ => rfl)
    (fun _ => by simp)
    (fun s => by simp [IsNormal])

end State

namespace Connection

def IsNormal (c : Connection) : Prop :=
  ∀ i ∈ c.timestamp, i.IsLegible

theorem faithful_codec : codec.Faithful (fun _ => []) IsNormal 1 :=
  Layout.Faithful.codec
    (.field (Field.faithful_defaulted Codec.plain_uint64 trivial (Nat.zero_le _)) <|
      .field (Field.faithful_optional Codec.faithful_instant (fun _ _ => Term.noConfusion)) <|
        .field (Field.faithful_defaulted Codec.plain_text trivial (Nat.zero_le _)) <|
          .field (Field.faithful_required Codec.plain_text) <|
            .field (Field.faithful_required ConnectionStatus.plain_codec) <|
              .done)
    (by decide) (fun _ => rfl) (fun _ => rfl)
    (fun _ => by simp)
    (fun c => by simp [IsNormal])

end Connection

namespace CommandResult

def IsNormal (r : CommandResult) : Prop :=
  r.finishedAt.IsLegible

theorem faithful_codec : codec.Faithful (fun _ => []) IsNormal 1 :=
  Layout.Faithful.codec
    (.field (Field.faithful_required Codec.plain_text) <|
      .field (Field.faithful_required Codec.plain_text) <|
        .field (Field.faithful_required Codec.plain_text) <|
          .field (Field.faithful_required Verdict.plain_codec) <|
            .field (Field.faithful_nullable Codec.plain_text (fun _ _ => Term.noConfusion)) <|
              .field (Field.faithful_required Codec.faithful_instant) <|
                .done)
    (by decide) (fun _ => rfl) (fun _ => rfl)
    (fun _ => by simp)
    (fun r => by simp [IsNormal])

end CommandResult
end Message
end FleetBridge
