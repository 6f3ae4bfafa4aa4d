import FleetBridge.Proofs.Message.Envelope
import FleetBridge.Proofs.Message.Event
import FleetBridge.Proofs.Record.Text
import FleetBridge.Proofs.Template.Catalog

/-!
# Documents read again

Texts may spell a document in many ways: with its members in any order and others
among them, without members that have a default, as an array, with numbers and
strings in any spelling.  Writing what was read gives one text for all of these,
and reading that text again loses nothing.
-/

namespace FleetBridge

open Json Message

inductive Document where
  | action
  | node
  | edge
  | pose
  | actionState
  | order
  | instantActions
  | state
  | connection
  | commandResult
  | record
  | catalog
  | event
  deriving DecidableEq

namespace Document

abbrev Content : Document → Type
  | action => Action
  | node => Node
  | edge => Edge
  | pose => Pose
  | actionState => ActionState
  | order => Message.Order
  | instantActions => InstantActions
  | state => State
  | connection => Connection
  | commandResult => CommandResult
  | record => Record
  | catalog => Template.Catalog
  | event => Event

def codec : (d : Document) → Codec d.Content
  | action => Action.codec
  | node => Node.codec
  | edge => Edge.codec
  | pose => Pose.codec
  | actionState => ActionState.codec
  | order => Message.Order.codec
  | instantActions => InstantActions.codec
  | state => State.codec
  | connection => Connection.codec
  | commandResult => CommandResult.codec
  | record => Record.codec
  | catalog => Template.Catalog.codec
  | event => Event.codec

def doubles : (d : Document) → d.Content → List Float
  | action => Action.doubles
  | node => Node.doubles
  | edge => Edge.doubles
  | pose => Pose.doubles
  | actionState => fun _ => []
  | order => Message.Order.doubles
  | instantActions => InstantActions.doubles
  | state => fun _ => []
  | connection => fun _ => []
  | commandResult => fun _ => []
  | record => fun _ => []
  | catalog => Template.Catalog.doubles
  | event => Event.doubles

def IsNormal : (d : Document) → d.Content → Prop
  | action => Action.IsNormal
  | node => Node.IsNormal
  | edge => Edge.IsNormal
  | pose => Pose.IsFinite
  | actionState => fun _ => True
  | order => Message.Order.IsNormal
  | instantActions => InstantActions.IsNormal
  | state => State.IsNormal
  | connection => Connection.IsNormal
  | commandResult => CommandResult.IsNormal
  | record => Record.IsNormal
  | catalog => Template.Catalog.IsNormal
  | event => Event.IsNormal

/-- The defaults of no document nest deeper than those of an order. -/
theorem faithful_codec (d : Document) : d.codec.Faithful d.doubles d.IsNormal 7 := by
  cases d with
  | action => exact Action.faithful_codec.mono (by decide)
  | node => exact Node.faithful_codec.mono (by decide)
  | edge => exact Edge.faithful_codec.mono (by decide)
  | pose => exact Pose.faithful_codec.mono (by decide)
  | actionState => exact ActionState.plain_codec.mono (by decide)
  | order => exact Message.Order.faithful_codec
  | instantActions => exact InstantActions.faithful_codec.mono (by decide)
  | state => exact State.faithful_codec.mono (by decide)
  | connection => exact Connection.faithful_codec.mono (by decide)
  | commandResult => exact CommandResult.faithful_codec.mono (by decide)
  | record => exact Record.faithful_codec.mono (by decide)
  | catalog => exact Template.Catalog.faithful_codec.mono (by decide)
  | event => exact Event.faithful_codec.mono (by decide)

/-- Reading normalises a text and loses nothing by it. -/
theorem reads_render_of_parse (d : Document) {s : List (Option Char)} {a : d.Content}
    (hparse : d.codec.parse s = .ok a) (hback : ∀ x ∈ d.doubles a, ReadsBack x) :
    d.codec.parseText (d.codec.render a) = .ok a ∧
      ∀ b, d.codec.parseText (d.codec.render a) = .ok b →
        d.codec.render b = d.codec.render a := by
  have hagain : d.codec.parseText (d.codec.render a) = .ok a :=
    d.faithful_codec.parseText_render (by decide) hparse hback
  refine ⟨hagain, ?_⟩
  intro b hb
  rw [hagain] at hb
  cases hb
  rfl

/-- Instant actions out of order: an action as an array, a number beyond the integers, a
leap second at an offset. -/
def spelled : String :=
  "\x7b\"actions\": [[\"stop\", \"a1\", null, " ++
    "\x7b\"HARD\": null\x7d], [\"pick\", \"a2\", null, " ++
    "\"NONE\", [\x7b\"value\": \x7b\"b\": 1e2, \"a\": " ++
    "[-0, 18446744073709551616]\x7d, " ++
    "\"key\": \"\\u006b\"\x7d]]], \"serialNumber\": \"r\", " ++
    "\"extra\": [\x7b\x7d], \"version\": \"2\", " ++
    "\"manufacturer\": \"m\", \"headerId\": 7, " ++
    "\"timestamp\": \"2024-3-1 1:29:60.5 +01:30\"\x7d"

theorem reads_render_of_parse_spelled :
    ∃ a, instantActions.codec.parse (spelled.toList.map some) = .ok a ∧
      a.timestamp = { seconds := 1709251199, nanos := 1500000000 } ∧
      a.doubles = [-0.0, 18446744073709551616, 100] ∧
      instantActions.codec.parseText (instantActions.codec.render a) = .ok a ∧
      ∀ b, instantActions.codec.parseText (instantActions.codec.render a) = .ok b →
        instantActions.codec.render b = instantActions.codec.render a := by
  have hread : (instantActions.codec.parse (spelled.toList.map some)).toOption.map
      (fun a => (a.timestamp, a.doubles)) =
        some ({ seconds := 1709251199, nanos := 1500000000 },
          [-0.0, 18446744073709551616, 100]) := by
    unfold spelled
    iterate 7 rewrite [String.toList_append]
    decide +kernel
  cases hparse : instantActions.codec.parse (spelled.toList.map some) with
  | error e =>
      rw [hparse] at hread
      cases hread
  | ok a =>
      rw [hparse] at hread
      obtain ⟨htimestamp, hdoubles⟩ := Prod.mk.inj (Option.some.inj hread)
      have hback : ∀ x ∈ instantActions.doubles a, ReadsBack x := by
        intro x hx
        rw [show instantActions.doubles a = _ from hdoubles] at hx
        simp only [List.mem_cons, List.not_mem_nil, or_false] at hx
        rcases hx with rfl | rfl | rfl
        all_goals
          unfold ReadsBack
          decide +kernel
      exact ⟨a, rfl, htimestamp, hdoubles, reads_render_of_parse instantActions hparse hback⟩

end Document
end FleetBridge
