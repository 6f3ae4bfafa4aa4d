import FleetBridge.Message.Event
import FleetBridge.Proofs.Message.Telemetry

/-!
# Events read back

A payload is written under the name of its variant, and that name tells what it is
read as.
-/

namespace FleetBridge
namespace Message

open Json

namespace Factsheet

def doubles (f : Factsheet) : List Float :=
  f.document.doubles

def IsNormal (f : Factsheet) : Prop :=
  f.document.IsOrdered

theorem faithful_codec : codec.Faithful doubles IsNormal 1 :=
  Layout.Faithful.codec
    (.field (Field.faithful_required Codec.plain_text) <|
      .field (Field.faithful_required Codec.faithful_value) <|
        .done)
    (by decide) (fun _ => rfl) (fun _ => rfl)
    (fun f => by simp [doubles])
    (fun f => by simp [IsNormal])

end Factsheet

namespace StatusChange

def IsNormal (c : StatusChange) : Prop :=
  c.status.IsNormal

theorem faithful_codec : codec.Faithful (fun _ => []) IsNormal 2 :=
  Layout.Faithful.codec
    (.field (Field.faithful_required Codec.plain_text) <|
      .field (Field.faithful_required Summary.faithful_codec) <|
        .done)
    (by decide) (fun _ => rfl) (fun _ => rfl)
    (fun _ => by simp)
    (fun c => by simp [IsNormal])

end StatusChange

namespace Payload

def doubles : Payload → List Float
  | state _ => []
  | connection _ => []
  | factsheet f => f.doubles
  | statusChanged _ => []
  | commandResult _ => []

def IsNormal : Payload → Prop
  | state s => s.IsNormal
  | connection c => c.IsNormal
  | factsheet f => f.IsNormal
  | statusChanged c => c.IsNormal
  | commandResult r => r.IsNormal

def IsReadFrom (room : Nat) (t : Term) : Payload → Prop
  | state s => State.codec.read? room t = some s
  | connection c => Connection.codec.read? room t = some c
  | factsheet f => Factsheet.codec.read? room t = some f
  | statusChanged c => StatusChange.codec.read? room t = some c
  | commandResult r => CommandResult.codec.read? room t = some r

theorem isUnbroken_variantTerm {name : String} {t : Term} (h : t.IsUnbroken) :
    (Term.variantTerm name t).IsUnbroken := by
  apply Term.isUnbroken_object
  intro m hm
  rw [List.mem_singleton.mp hm]
  exact ⟨fun x hx => Symbol.ne_broken_of_mem_ofText hx, h⟩

theorem depth_variantTerm (name : String) (t : Term) :
    (Term.variantTerm name t).depth = t.depth + 1 :=
  congrArg Nat.succ (Nat.max_zero t.depth)

theorem variant?_variantTerm (name : String) (t : Term) :
    (Term.variantTerm name t).variant? = some (name, t) := by
  simp only [Term.variantTerm, Term.variant?, Symbol.text?_ofText, Option.map_some]

def inner : Payload → Term
  | state s => State.codec.write s
  | connection c => Connection.codec.write c
  | factsheet f => Factsheet.codec.write f
  | statusChanged c => StatusChange.codec.write c
  | commandResult r => CommandResult.codec.write r

theorem depth_write (p : Payload) : p.write.depth = p.inner.depth + 1 := by
  cases p <;> exact depth_variantTerm _ _

theorem isUnbroken_write (p : Payload) : p.write.IsUnbroken := by
  cases p with
  | state s => exact isUnbroken_variantTerm (State.faithful_codec.isUnbroken_write s)
  | connection c => exact isUnbroken_variantTerm (Connection.faithful_codec.isUnbroken_write c)
  | factsheet f => exact isUnbroken_variantTerm (Factsheet.faithful_codec.isUnbroken_write f)
  | statusChanged c =>
      exact isUnbroken_variantTerm (StatusChange.faithful_codec.isUnbroken_write c)
  | commandResult r =>
      exact isUnbroken_variantTerm (CommandResult.faithful_codec.isUnbroken_write r)

theorem read?_write_eq_some {room : Nat} {p : Payload} (h : p.IsReadFrom room p.inner) :
    read? (room + 1) p.write = some p := by
  cases p <;> simpa [write, read?, inner, IsReadFrom, variant?_variantTerm] using h

theorem isReadFrom_inner {room : Nat} {p : Payload} (hnormal : p.IsNormal)
    (hdepth : p.inner.depth ≤ room) (hback : ∀ x ∈ p.doubles, ReadsBack x) :
    p.IsReadFrom room p.inner := by
  cases p with
  | state s => exact State.faithful_codec.read?_write hnormal hdepth hback
  | connection c => exact Connection.faithful_codec.read?_write hnormal hdepth hback
  | factsheet f => exact Factsheet.faithful_codec.read?_write hnormal hdepth hback
  | statusChanged c => exact StatusChange.faithful_codec.read?_write hnormal hdepth hback
  | commandResult r => exact CommandResult.faithful_codec.read?_write hnormal hdepth hback

theorem exists_isReadFrom {room : Nat} {t : Term} {p : Payload} (h : read? room t = some p) :
    ∃ less u, room = less + 1 ∧ p.IsReadFrom less u := by
  unfold read? at h
  split at h
  all_goals
    first
    | cases h
    | obtain ⟨a, ha, rfl⟩ := Option.map_eq_some_iff.mp h
      exact ⟨_, _, rfl, ha⟩

theorem isNormal_of_isReadFrom {room : Nat} {t : Term} {p : Payload}
    (h : p.IsReadFrom room t) : p.IsNormal := by
  cases p with
  | state s => exact State.faithful_codec.normal_of_read? h
  | connection c => exact Connection.faithful_codec.normal_of_read? h
  | factsheet f => exact Factsheet.faithful_codec.normal_of_read? h
  | statusChanged c => exact StatusChange.faithful_codec.normal_of_read? h
  | commandResult r => exact CommandResult.faithful_codec.normal_of_read? h

theorem depth_le_of_isReadFrom {room : Nat} {t : Term} {p : Payload}
    (h : p.IsReadFrom room t) : p.inner.depth ≤ max 3 room := by
  cases p with
  | state s => exact State.faithful_codec.depth_le_of_read? h
  | connection c => exact (Connection.faithful_codec.mono (by decide)).depth_le_of_read? h
  | factsheet f => exact (Factsheet.faithful_codec.mono (by decide)).depth_le_of_read? h
  | statusChanged c => exact (StatusChange.faithful_codec.mono (by decide)).depth_le_of_read? h
  | commandResult r => exact (CommandResult.faithful_codec.mono (by decide)).depth_le_of_read? h

theorem faithful_codec : codec.Faithful doubles IsNormal 4 where
  isUnbroken_write := isUnbroken_write
  read?_write {room p} hnormal hdepth hback := by
    have hwrite : (codec.write p).depth = p.inner.depth + 1 := depth_write p
    obtain ⟨room, rfl⟩ := Nat.exists_eq_add_of_le' (show 1 ≤ room by omega)
    exact read?_write_eq_some (isReadFrom_inner hnormal (by omega) hback)
  normal_of_read? hread := by
    obtain ⟨less, u, rfl, hfrom⟩ := exists_isReadFrom hread
    exact isNormal_of_isReadFrom hfrom
  depth_le_of_read? {room t p} hread := by
    obtain ⟨less, u, rfl, hfrom⟩ := exists_isReadFrom hread
    have hwrite : (codec.write p).depth = p.inner.depth + 1 := depth_write p
    have hdepth := depth_le_of_isReadFrom hfrom
    omega

end Payload

namespace Event

def doubles (e : Event) : List Float :=
  e.payload.doubles

def IsNormal (e : Event) : Prop :=
  e.timestamp.IsLegible ∧ e.payload.IsNormal

theorem faithful_codec : codec.Faithful doubles IsNormal 5 :=
  Layout.Faithful.codec
    (.field (Field.faithful_required Codec.plain_uuid) <|
      .field (Field.faithful_required Codec.faithful_instant) <|
        .field (Field.faithful_required Codec.plain_text) <|
          .field (Field.faithful_required Payload.faithful_codec) <|
            .done)
    (by decide) (fun _ => rfl) (fun _ => rfl)
    (fun e => by simp [doubles])
    (fun e => by simp [IsNormal])

end Event
end Message
end FleetBridge
