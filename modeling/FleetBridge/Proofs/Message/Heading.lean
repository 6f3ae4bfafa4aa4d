import FleetBridge.Proofs.Message.Wire

/-!
# The heading of an envelope

Whatever an envelope asks for, it begins with the same five fields.  A receiver has these from
the bytes of every envelope, also from one that nests too deeply to be read whole.
-/

namespace FleetBridge
namespace Message

open Json

structure Heading where
  headerId : UInt64
  timestamp : Time.Instant
  version : String
  manufacturer : String
  serialNumber : String

namespace Heading

def layout : Layout (UInt64 × Time.Instant × String × String × String × Unit) :=
  .field (.required "headerId" .uint64) <|
  .field (.required "timestamp" .instant) <|
  .field (.required "version" .text) <|
  .field (.required "manufacturer" .text) <|
  .field (.required "serialNumber" .text) <|
  .done

def fields (h : Heading) : UInt64 × Time.Instant × String × String × String × Unit :=
  (h.headerId, h.timestamp, h.version, h.manufacturer, h.serialNumber, ())

def codec : Codec Heading :=
  layout.codec fields
    (fun (headerId, timestamp, version, manufacturer, serialNumber, _) =>
      { headerId, timestamp, version, manufacturer, serialNumber })

/-- A heading is read from whatever begins with its fields. -/
theorem read?_write {h : Heading} (hlegible : h.timestamp.IsLegible) {ρ α : Type}
    {writer : Layout ρ} {toFields : α → ρ} (ofFields : ρ → α) {a : α}
    (hwriter : writer.names.Nodup) {rest : List (String × Term)}
    (hbegins : writer.written (toFields a) = layout.written h.fields ++ rest) :
    codec.read? maxDepth ((writer.codec toFields ofFields).write a) = some h := by
  have hfound : ∀ n ∈ layout.names,
      (writer.written (toFields a)).lookup n = (layout.written h.fields).lookup n := by
    intro n hn
    rw [hbegins]
    simp only [layout, Layout.names, Field.required, List.mem_cons, List.not_mem_nil,
      or_false] at hn
    rcases hn with rfl | rfl | rfl | rfl | rfl <;> rfl
  have hread : layout.read? maxDepth (.object (writer.members (toFields a))) = some h.fields := by
    refine Layout.Faithful.read?_members_of_lookup_eq
      (.field (Field.faithful_required Codec.plain_uint64) <|
        .field (Field.faithful_required Codec.faithful_instant) <|
          .field (Field.faithful_required Codec.plain_text) <|
            .field (Field.faithful_required Codec.plain_text) <|
              .field (Field.faithful_required Codec.plain_text) <|
                @Layout.Faithful.done 0)
      (by decide) ?_ ?_ ?_ hwriter hfound
    · exact ⟨trivial, hlegible, trivial, trivial, trivial, trivial⟩
    · intro m hm
      simp only [Layout.written, Field.required, fields, if_true, List.mem_cons,
        List.not_mem_nil, or_false] at hm
      rcases hm with rfl | rfl | rfl | rfl | rfl <;> exact Nat.zero_le _
    · exact fun x hx => absurd hx List.not_mem_nil
  exact congrArg (Option.map _) hread

end Heading

namespace Order

def heading (o : Order) : Heading :=
  { headerId := o.headerId
    timestamp := o.timestamp
    version := o.version
    manufacturer := o.manufacturer
    serialNumber := o.serialNumber }

theorem read?_heading {o : Order} (h : o.heading.timestamp.IsLegible) :
    Heading.codec.read? maxDepth (codec.write o) = some o.heading :=
  Heading.read?_write h _ (by decide) rfl

end Order

namespace InstantActions

def heading (i : InstantActions) : Heading :=
  { headerId := i.headerId
    timestamp := i.timestamp
    version := i.version
    manufacturer := i.manufacturer
    serialNumber := i.serialNumber }

theorem read?_heading {i : InstantActions} (h : i.heading.timestamp.IsLegible) :
    Heading.codec.read? maxDepth (codec.write i) = some i.heading :=
  Heading.read?_write h _ (by decide) rfl

end InstantActions

namespace Envelope

def heading : Envelope → Heading
  | order o => o.heading
  | instantActions i => i.heading
  | factsheetRequest i => i.heading
  | initPosition i => i.heading

theorem headerId_heading (e : Envelope) : e.heading.headerId = e.headerId := by
  cases e <;> rfl

theorem manufacturer_heading (e : Envelope) : e.heading.manufacturer = e.manufacturer := by
  cases e <;> rfl

theorem serialNumber_heading (e : Envelope) : e.heading.serialNumber = e.serialNumber := by
  cases e <;> rfl

theorem read?_heading_toTerm {e : Envelope} (h : e.heading.timestamp.IsLegible) :
    Heading.codec.read? maxDepth e.toTerm = some e.heading := by
  cases e with
  | order o => exact Order.read?_heading h
  | instantActions i => exact InstantActions.read?_heading h
  | factsheetRequest i => exact InstantActions.read?_heading h
  | initPosition i => exact InstantActions.read?_heading h

/-- What it takes to read an envelope whole: that it nests no deeper than a reader goes, that
its numbers read back, and that its values are such as are read. -/
structure IsReadable (e : Envelope) : Prop where
  normal : e.IsNormal
  depth : e.toTerm.depth ≤ maxDepth
  doubles : ∀ x ∈ e.doubles, ReadsBack x

/-- A payload from which a receiver has an envelope: the heading of any, and of one that can be
read whole all that is in it, as what it is and as nothing else. -/
structure Delivers (payload : String) (e : Envelope) : Prop where
  term : Term.ofGlyphs? (Text.glyphs payload.toUTF8.toList) = some e.toTerm
  heading : (Heading.codec.parse (Text.glyphs payload.toUTF8.toList)).toOption = some e.heading
  order : e.IsReadable →
    (Order.codec.parse (Text.glyphs payload.toUTF8.toList)).toOption = e.order?
  instantActions : e.IsReadable →
    (InstantActions.codec.parse (Text.glyphs payload.toUTF8.toList)).toOption = e.instantActions?

theorem delivers_wire {e : Envelope} (h : e.heading.timestamp.IsLegible) :
    Delivers e.wire e where
  term := e.ofGlyphs?_wire
  heading := by rw [toOption_parse_wire, read?_heading_toTerm h]
  order hread := by
    rw [toOption_parse_wire, read?_order_toTerm hread.normal hread.depth hread.doubles]
  instantActions hread := by
    rw [toOption_parse_wire, read?_instantActions_toTerm hread.normal hread.depth hread.doubles]

end Envelope
end Message
end FleetBridge
