import FleetBridge.Proofs.Bridge.Dispatch
import FleetBridge.Proofs.Message.Request

/-!
# What the first step hands out

The five kinds of commands share one path.  `issues_start` says once where it can stop
and what is left behind then: the record, the pending command, the header id and the
envelope all come from the same ticket.
-/

namespace FleetBridge
namespace Bridge

open Message Record

namespace Command

/-- The text under which a command is pending; the order of a template never is. -/
def text? : Command → Option String
  | order _ _ => none
  | rawOrder _ _ _ text => some text
  | instantActions _ text => some text
  | factsheet => some "factsheet request"
  | initPosition pose => some (positionText pose)

def orderId? : Command → Option String
  | rawOrder orderId _ _ _ => some orderId
  | _ => none

def draft (orderId device : String) : Command → Draft
  | order templateId _ => { orderId, templateId := some templateId, device, revision := 0 }
  | rawOrder _ orderUpdateId _ _ =>
      { orderId, templateId := none, device, revision := orderUpdateId }
  | _ => { orderId, templateId := none, device, revision := 0 }

theorem isSome_text? (c : Command) : c.text?.isSome = c.isDirect := by
  cases c <;> rfl

theorem orderId_draft (c : Command) (orderId device : String) :
    (c.draft orderId device).orderId = orderId := by
  cases c <;> rfl

theorem device_draft (c : Command) (orderId device : String) :
    (c.draft orderId device).device = device := by
  cases c <;> rfl

/-- What a robot is to be told by a command under an order id. -/
inductive Asks (b : Bridge) (orderId : String) : Command → Content → Prop where
  | order {templateId : String} {overrides : Overrides} {graph : Graph} {uuids : Uuid.Supply}
      (hexpand : b.library.expand templateId b.uuids = .ok (graph, uuids)) :
      Asks b orderId (order templateId overrides) (.order orderId 0 (graph.withOverrides overrides).1)
  | rawOrder {orderUpdateId : UInt64} {graph : Graph} {text : String} :
      Asks b orderId (rawOrder orderId orderUpdateId graph text)
        (.order orderId orderUpdateId graph)
  | instantActions {actions : List Action} {text : String} :
      Asks b orderId (instantActions actions text) (.instantActions actions)
  | factsheet : Asks b orderId factsheet .factsheet
  | initPosition {pose : Pose} : Asks b orderId (initPosition pose) (.initPosition pose)

theorem Asks.eq_of_orderId? {b : Bridge} {orderId given : String} {c : Command}
    {content : Content} (h : c.Asks b orderId content) (hgiven : c.orderId? = some given) :
    orderId = given := by
  cases h with
  | rawOrder => exact Option.some.inj hgiven
  | _ => cases hgiven

end Command

/-- A ticket that was handed out, and the bridge afterwards. -/
structure Issued (now : Time.Moment) (device : String) (via : Option Transport.Kind)
    (command : Command) (b : Bridge) (envelope : Envelope) (t : Ticket) (b' : Bridge) :
    Prop where
  heading : envelope.heading =
    { headerId := (b.headerIds.reserve device).1
      timestamp := now.instant
      version := "2.0.0"
      manufacturer := b.presence.manufacturer device
      serialNumber := device }
  asked : ∃ content, command.Asks b t.orderId content ∧ envelope.Carries content
  ticket : t =
    { orderId := t.orderId
      device
      transport := via.getD b.preferred
      headerId := envelope.heading.headerId
      destination :=
        b.resolver.resolve envelope.heading.serialNumber envelope.heading.manufacturer
          envelope.kind (via.getD b.preferred)
      payload := envelope.wire }
  begun : b.store.begin now.instant (command.draft t.orderId device) = .ok b'.store
  pending : b'.pending =
    match command.text? with
    | none => b.pending
    | some text =>
        b.pending.insert (.register now t.orderId device text envelope.actionIds)
  headerIds : b'.headerIds = (b.headerIds.reserve device).2
  rest : b' =
    { b with
      store := b'.store
      pending := b'.pending
      headerIds := b'.headerIds
      uuids := b'.uuids }

/-- Where the first step of a dispatch can stop. -/
inductive Issues (now : Time.Moment) (device : String) (via : Option Transport.Kind)
    (command : Command) (b : Bridge) : Except Error Ticket × Bridge → Prop where
  | missing {templateId : String} {overrides : Overrides} {what : Template.Missing}
      (hcommand : command = .order templateId overrides)
      (hmissing : b.library.expand templateId b.uuids = .error what) :
      Issues now device via command b (.error (.missing what), b)
  | offline {uuids : Uuid.Supply} (hoffline : b.presence.isOnline device = false) :
      Issues now device via command b (.error (.deviceNotOnline device), { b with uuids })
  | taken {orderId : String} {uuids : Uuid.Supply}
      (hnamed : ∀ given, command.orderId? = some given → orderId = given)
      (htaken : b.store.row? orderId ≠ none) :
      Issues now device via command b
        (.error (.store (.duplicate orderId)),
          { b with headerIds := (b.headerIds.reserve device).2, uuids })
  | issued {envelope : Envelope} {t : Ticket} {b' : Bridge}
      (h : Issued now device via command b envelope t b') :
      Issues now device via command b (.ok t, b')

/-- An envelope for a robot has been built, and nothing but a header id and identifiers
used up. -/
structure Prepared (now : Time.Moment) (device : String) (content : Content) (b : Bridge)
    (envelope : Envelope) (b' : Bridge) : Prop where
  heading : envelope.heading =
    { headerId := (b.headerIds.reserve device).1
      timestamp := now.instant
      version := "2.0.0"
      manufacturer := b.presence.manufacturer device
      serialNumber := device }
  carries : envelope.Carries content
  rest : ∃ uuids, b' = { b with headerIds := (b.headerIds.reserve device).2, uuids }

theorem prepared_buildFor (now : Time.Moment) (device : String) (content : Content)
    (b : Bridge) (uuids : Uuid.Supply) :
    Prepared now device content b ({ b with uuids }.buildFor now device content).1
      ({ b with uuids }.buildFor now device content).2 := by
  let request : Request :=
    { address := { device, manufacturer := b.presence.manufacturer device }
      content
      headerId? := none }
  have hheading := request.heading_envelope (b.headerIds.reserve device).1 now.instant uuids
  have hcarries := request.carries_envelope (b.headerIds.reserve device).1 now.instant uuids
  exact ⟨hheading, hcarries, _, rfl⟩

theorem Prepared.draw {now : Time.Moment} {device : String} {content : Content} {b b' : Bridge}
    {envelope : Envelope} (h : Prepared now device content b envelope b') :
    Prepared now device content b envelope b'.draw.2 := by
  rcases h.rest with ⟨uuids, rfl⟩
  exact ⟨h.heading, h.carries, _, rfl⟩

section

variable {now : Time.Moment} {device : String} {via : Option Transport.Kind}
  {command : Command} {content : Content} {b b' : Bridge} {envelope : Envelope}

theorem issues_issue (h : Prepared now device content b envelope b') {orderId : String}
    (hasks : command.Asks b orderId content) :
    Issues now device via command b
      (b'.issue now (command.draft orderId device) envelope (via.getD b.preferred)
        command.text?) := by
  rcases h with ⟨hheading, hcarries, uuids, rfl⟩
  have hid := command.orderId_draft orderId device
  have hdevice := command.device_draft orderId device
  simp only [issue]
  cases hbegin : b.store.begin now.instant (command.draft orderId device) with
  | error e =>
      have htaken : b.store.row? orderId ≠ none := by
        intro hfree
        rw [← hid] at hfree
        rcases Store.exists_begin hfree now.instant with ⟨store, hstore⟩
        rw [hbegin] at hstore
        cases hstore
      have he : e = .duplicate orderId := by
        rw [← hid]
        exact Store.eq_duplicate_of_begin hbegin
      subst he
      exact Issues.taken (fun _ => hasks.eq_of_orderId?) htaken
  | ok store =>
      apply Issues.issued
      refine ⟨hheading, ⟨content, ?_, hcarries⟩, ?_, ?_, ?_, rfl, rfl⟩
      · rw [hid]
        exact hasks
      · have hserial : envelope.heading.serialNumber = device := by rw [hheading]
        simp only [hid, hdevice, envelope.headerId_heading, envelope.manufacturer_heading, hserial]
      · rw [hid]
        exact hbegin
      · cases command.text? with
        | none => rfl
        | some text => simp only [hdevice]

theorem issues_start (now : Time.Moment) (device : String) (via : Option Transport.Kind)
    (command : Command) (b : Bridge) :
    Issues now device via command b (b.start now device via command) := by
  cases honline : b.presence.isOnline device with
  | false =>
      cases command with
      | order templateId overrides =>
          simp only [start, honline]
          cases hexpand : b.library.expand templateId b.uuids with
          | error what => exact Issues.missing rfl hexpand
          | ok expanded => exact Issues.offline honline
      | _ =>
          simp only [start, honline]
          exact @Issues.offline now device via _ b b.uuids honline
  | true =>
      cases command with
      | order templateId overrides =>
          simp only [start, honline]
          cases hexpand : b.library.expand templateId b.uuids with
          | error what => exact Issues.missing rfl hexpand
          | ok expanded =>
              exact issues_issue (prepared_buildFor now device _ b _) (.order hexpand)
      | rawOrder orderId orderUpdateId graph text =>
          simp only [start, honline, if_true]
          exact issues_issue (prepared_buildFor now device _ b b.uuids) .rawOrder
      | instantActions actions text =>
          simp only [start, honline, if_true]
          exact issues_issue (prepared_buildFor now device _ b b.uuids).draw .instantActions
      | factsheet =>
          simp only [start, honline, if_true]
          exact issues_issue (prepared_buildFor now device _ b b.uuids).draw .factsheet
      | initPosition pose =>
          simp only [start, honline, if_true]
          exact issues_issue (prepared_buildFor now device _ b b.uuids).draw .initPosition

end

/-!
# The order of a ticket
-/

section

variable {now : Time.Moment} {device : String} {via : Option Transport.Kind}
  {command : Command} {b b' : Bridge} {envelope : Envelope} {t : Ticket}

theorem Issued.row?_self (h : Issued now device via command b envelope t b') :
    b'.store.row? t.orderId =
      some (Row.ofDraft now.instant (command.draft t.orderId device)) := by
  rw [Store.row?_of_begin h.begun, command.orderId_draft, if_pos rfl]

theorem Issued.row?_of_ne (h : Issued now device via command b envelope t b')
    {orderId : String} (hne : orderId ≠ t.orderId) :
    b'.store.row? orderId = b.store.row? orderId := by
  rw [Store.row?_of_begin h.begun, command.orderId_draft, if_neg hne]

theorem Issued.free (h : Issued now device via command b envelope t b') :
    b.store.row? t.orderId = none := by
  have hfree := Store.row?_eq_none_of_begin h.begun
  rw [command.orderId_draft] at hfree
  exact hfree

theorem Issued.find?_of_ne (h : Issued now device via command b envelope t b')
    {orderId : String} (hne : orderId ≠ t.orderId) :
    b'.pending.find? orderId = b.pending.find? orderId := by
  rw [h.pending]
  cases command.text? with
  | none => rfl
  | some text => exact Pending.find?_insert_of_ne hne b.pending

theorem Issued.find?_self (h : Issued now device via command b envelope t b') :
    b'.pending.find? t.orderId =
      match command.text? with
      | none => b.pending.find? t.orderId
      | some text => some (.register now t.orderId device text envelope.actionIds) := by
  rw [h.pending]
  cases command.text? with
  | none => rfl
  | some text =>
      exact Pending.find?_insert_self
        (.register now t.orderId device text envelope.actionIds) b.pending

end

end Bridge
end FleetBridge
