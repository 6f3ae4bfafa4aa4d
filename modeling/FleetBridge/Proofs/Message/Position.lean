import FleetBridge.Proofs.Json.Spelling
import FleetBridge.Proofs.Message.Wire

/-!
# Positions on the wire

A coordinate goes out as a JSON number exactly if it is finite, and as null otherwise.  The
number is spelled so that a reader who rounds correctly has the coordinate back.
-/

namespace FleetBridge

namespace Json
namespace Value

/-- A number that is a given double, as it stands and as it is spelled. -/
def Means (v : Value) (x : Float) : Prop :=
  ∃ n, v = number n ∧ n.toFloat = x ∧ n.literal.Spells x

theorem means_ofFloat_iff {x : Float} : (ofFloat x).Means x ↔ x.isFinite = true := by
  constructor
  · rintro ⟨n, _, rfl, _⟩
    exact Codec.isFinite_toFloat n
  · intro hfinite
    exact ⟨.real x hfinite, Codec.ofFloat_eq_real hfinite, rfl,
      Literal.spells_ofFloat hfinite⟩

theorem not_means_null (x : Float) : ¬ null.Means x := by
  rintro ⟨n, hn, _⟩
  cases hn

theorem ofFloat_eq_null {x : Float} (h : x.isFinite = false) : ofFloat x = null := by
  simp [ofFloat, Number.ofFloat?, h]

theorem eq_of_mem_doubles_ofFloat {x y : Float} (h : y ∈ (ofFloat x).doubles) : y = x := by
  cases hfinite : x.isFinite with
  | false =>
      rw [ofFloat_eq_null hfinite] at h
      cases h
  | true =>
      rw [Codec.ofFloat_eq_real hfinite] at h
      exact List.mem_singleton.mp h

end Value
end Json

namespace Message

open Json

namespace Pose

def coordinates (p : Pose) : List (String × Float) :=
  [("x", p.x), ("y", p.y), ("theta", p.theta)]

end Pose

namespace InstantActions

def parameter? (key : String) (i : InstantActions) : Option Value :=
  match i.actions with
  | [a] => a.parameter? key
  | _ => none

structure Conveys (i : InstantActions) (pose : Pose) : Prop where
  means_iff : ∀ c ∈ pose.coordinates,
    (∃ v, i.parameter? c.1 = some v ∧ v.Means c.2) ↔ c.2.isFinite = true
  null : ∀ c ∈ pose.coordinates, c.2.isFinite = false → i.parameter? c.1 = some .null
  mapId : i.parameter? "mapId" = some (.string pose.mapId)

end InstantActions

/-- A payload that sets a position.  A reader that has the doubles back from their digits reads
the message that was written. -/
def Tells (payload : String) (pose : Pose) : Prop :=
  ∃ i : InstantActions, payload = (Envelope.initPosition i).wire ∧ i.Conveys pose ∧
    ((∀ x ∈ pose.doubles, ReadsBack x) →
      (InstantActions.codec.parse (Text.glyphs payload.toUTF8.toList)).toOption = some i)

theorem depth_instantActions (i : InstantActions) :
    (InstantActions.codec.write i).depth =
      Term.itemsDepth (i.actions.map Action.codec.write) + 2 := by
  simp [InstantActions.codec, Layout.codec, InstantActions.layout, Layout.members,
    Field.required, Term.depth, Term.membersDepth, Codec.text, Codec.uint64, Codec.instant,
    Codec.list, Term.text]

namespace Action

variable {u : Uuid} {pose : Pose}

theorem parameter?_setPosition {c : String × Float} (h : c ∈ pose.coordinates) :
    (setPosition u pose).parameter? c.1 = some (.ofFloat c.2) := by
  simp only [Pose.coordinates, List.mem_cons, List.not_mem_nil, or_false] at h
  rcases h with rfl | rfl | rfl <;> rfl

theorem mem_parameters_setPosition {p : Parameter} (h : p ∈ (setPosition u pose).parameters) :
    (∃ x ∈ pose.doubles, p.value = .ofFloat x) ∨ ∃ s, p.value = .string s := by
  rcases List.mem_append.mp h with h | h
  · simp only [List.mem_cons, List.not_mem_nil, or_false] at h
    rcases h with rfl | rfl | rfl | rfl
    · exact Or.inl ⟨pose.x, by simp [Pose.doubles], rfl⟩
    · exact Or.inl ⟨pose.y, by simp [Pose.doubles], rfl⟩
    · exact Or.inl ⟨pose.theta, by simp [Pose.doubles], rfl⟩
    · exact Or.inr ⟨pose.mapId, rfl⟩
  · obtain ⟨node, _, rfl⟩ := Option.map_eq_some_iff.mp (Option.mem_toList.mp h)
    exact Or.inr ⟨node, rfl⟩

theorem mem_doubles_of_setPosition {x : Float} (h : x ∈ (setPosition u pose).doubles) :
    x ∈ pose.doubles := by
  obtain ⟨p, hp, hx⟩ := List.mem_flatMap.mp h
  rw [Parameter.doubles] at hx
  rcases mem_parameters_setPosition hp with ⟨y, hy, hvalue⟩ | ⟨s, hvalue⟩
  · rw [hvalue] at hx
    exact Value.eq_of_mem_doubles_ofFloat hx ▸ hy
  · rw [hvalue] at hx
    cases hx

theorem depth_parameter (p : Parameter) :
    (Parameter.codec.write p).depth = p.value.toTerm.depth + 1 := by
  simp [Parameter.codec, Layout.codec, Parameter.layout, Layout.members, Field.required,
    Term.depth, Term.membersDepth, Codec.text, Codec.value, Term.text]

theorem depth_action (a : Action) :
    (codec.write a).depth = Term.itemsDepth (a.parameters.map Parameter.codec.write) + 2 := by
  obtain ⟨actionType, actionId, description, blocking, parameters⟩ := a
  cases description <;>
    simp [codec, Blocking.codec, Layout.codec, layout, Layout.members, Field.required,
      Field.optional, Field.defaulted, Term.depth, Term.membersDepth, Codec.text, Codec.option,
      Codec.word, Codec.list, Term.text]

theorem depth_setPosition_le : (codec.write (setPosition u pose)).depth ≤ 3 := by
  have hparameters : Term.itemsDepth
      ((setPosition u pose).parameters.map Parameter.codec.write) ≤ 1 := by
    refine Term.itemsDepth_le_iff.mpr (List.forall_mem_map.mpr ?_)
    intro p hp
    rw [depth_parameter]
    rcases mem_parameters_setPosition hp with ⟨x, _, hvalue⟩ | ⟨s, hvalue⟩
    · rw [hvalue, Codec.depth_toTerm_ofFloat]
    · rw [hvalue]
      exact Nat.le_refl 1
  rw [depth_action]
  omega

end Action

namespace Request

def positioning (r : Request) (pose : Pose) (headerId : UInt64) (now : Time.Instant) (u : Uuid) :
    InstantActions :=
  r.instant headerId now [Action.setPosition u pose]

variable {r : Request} {pose : Pose} {headerId : UInt64} {u : Uuid}

theorem conveys_positioning {now : Time.Instant} :
    (r.positioning pose headerId now u).Conveys pose where
  means_iff c hc := by
    have hparameter : (r.positioning pose headerId now u).parameter? c.1 =
        some (.ofFloat c.2) := Action.parameter?_setPosition hc
    simp only [hparameter, Option.some.injEq, exists_eq_left', Value.means_ofFloat_iff]
  null c hc hinfinite := by
    have hparameter : (r.positioning pose headerId now u).parameter? c.1 =
        some (.ofFloat c.2) := Action.parameter?_setPosition hc
    rw [hparameter, Value.ofFloat_eq_null hinfinite]
  mapId := rfl

theorem depth_positioning_le {now : Time.Instant} :
    (InstantActions.codec.write (r.positioning pose headerId now u)).depth ≤ maxDepth := by
  have hactions : Term.itemsDepth [Action.codec.write (Action.setPosition u pose)] ≤ 3 :=
    Term.itemsDepth_le_iff.mpr (List.forall_mem_singleton.mpr Action.depth_setPosition_le)
  rw [depth_instantActions, maxDepth]
  exact Nat.le_trans (Nat.add_le_add_right hactions 2) (by decide)

theorem isNormal_positioning {now : Time.Instant} (hnow : now.IsLegible) :
    (r.positioning pose headerId now u).IsNormal :=
  ⟨hnow, List.forall_mem_singleton.mpr (Action.isNormal_setPosition u pose)⟩

theorem mem_doubles_of_positioning {now : Time.Instant} {x : Float}
    (h : x ∈ (r.positioning pose headerId now u).doubles) : x ∈ pose.doubles := by
  obtain ⟨a, ha, hx⟩ := List.mem_flatMap.mp h
  rw [List.mem_singleton.mp ha] at hx
  exact Action.mem_doubles_of_setPosition hx

theorem tells_positioning {now : Time.Instant} (hnow : now.IsLegible) :
    Tells (Envelope.initPosition (r.positioning pose headerId now u)).wire pose := by
  refine ⟨_, rfl, conveys_positioning, fun hback => ?_⟩
  rw [Envelope.toOption_parse_wire]
  exact Envelope.read?_instantActions_toTerm (isNormal_positioning hnow) depth_positioning_le
    (fun x hx => hback x (mem_doubles_of_positioning hx))

end Request
end Message
end FleetBridge
