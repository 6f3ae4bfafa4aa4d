import FleetBridge.Bridge.Courier
import FleetBridge.Proofs.Bridge.Issue
import FleetBridge.Proofs.Bridge.Outcome

/-!
# The four endings of a dispatch

A dispatch during which nothing else happens is refused, sent, withdrawn or failed, and
which of these it is shows in its answer.  Every ending says what became of the record,
of the pending command, of the header id and of the payload.
-/

namespace FleetBridge
namespace Bridge

open Message Record

/-- A dispatch during which nothing else happens, its payload being handed over at `now`
and answered at `later`; with its answer come the tickets that were handed over. -/
def call (now later : Time.Moment) (device : String) (via : Option Transport.Kind)
    (command : Command) (reply : Ticket → Except Transport.Failure Unit) (b : Bridge) :
    Except Error Dispatched × List Ticket × Bridge :=
  match b.start now device via command with
  | (.error e, b) => (.error e, [], b)
  | (.ok t, b) => ((b.finish later t (reply t)).1, [t], (b.finish later t (reply t)).2)

/-- A courier that writes down what it is handed, and lets the bridge be. -/
def noting (reply : Ticket → Except Transport.Failure Unit) : Courier (Bridge × List Ticket) where
  bridge s := s.1
  setBridge b s := (b, s.2)
  carry _ t _ s := (reply t, (s.1, s.2 ++ [t]))

theorem dispatch_noting (now : Time.Moment) (device : String) (via : Option Transport.Kind)
    (command : Command) (reply : Ticket → Except Transport.Failure Unit) (cancelled : Bool)
    (b : Bridge) (handed : List Ticket) :
    (noting reply).dispatch now device via command cancelled (b, handed) =
      ((b.call now now device via command reply).1,
        (b.call now now device via command reply).2.2,
        handed ++ (b.call now now device via command reply).2.1) := by
  simp only [Courier.dispatch, Courier.onBridge, noting, call]
  cases b.start now device via command with
  | mk answer b' =>
      cases answer with
      | error e => simp
      | ok t => rfl

/-!
# Endings
-/

/-- Nothing was recorded or handed over, for one of three reasons; only the last of them
takes up a header id. -/
structure Refused (device : String) (command : Command) (b : Bridge)
    (answer : Except Error Dispatched) (handed : List Ticket) (b' : Bridge) : Prop where
  handed : handed = []
  rest : b' = { b with headerIds := b'.headerIds, uuids := b'.uuids }
  reason :
    (∃ templateId overrides what, command = .order templateId overrides ∧
      b.library.expand templateId b.uuids = .error what ∧
      answer = .error (.missing what) ∧ b'.headerIds = b.headerIds) ∨
    (b.presence.isOnline device = false ∧ answer = .error (.deviceNotOnline device) ∧
      b'.headerIds = b.headerIds) ∨
    ∃ orderId, (∀ given, command.orderId? = some given → orderId = given) ∧
      b.store.row? orderId ≠ none ∧ answer = .error (.store (.duplicate orderId)) ∧
      b'.headerIds = (b.headerIds.reserve device).2

/-- One envelope was handed over: it says what the command asks for, under the next header id of
its robot, and a receiver has it from the payload.  Other orders are as they were. -/
structure Handed (now : Time.Moment) (device : String) (via : Option Transport.Kind)
    (command : Command) (b : Bridge) (envelope : Envelope) (t : Ticket) (handed : List Ticket)
    (b' : Bridge) : Prop where
  only : handed = [t]
  ticket : t =
    { orderId := t.orderId
      device
      transport := via.getD b.preferred
      headerId := envelope.heading.headerId
      destination :=
        b.resolver.resolve envelope.heading.serialNumber envelope.heading.manufacturer
          envelope.kind (via.getD b.preferred)
      payload := envelope.wire }
  heading : envelope.heading =
    { headerId := (b.headerIds.find? device).getD 0 + 1
      timestamp := now.instant
      version := "2.0.0"
      manufacturer := b.presence.manufacturer device
      serialNumber := device }
  asked : ∃ content, command.Asks b t.orderId content ∧ envelope.Carries content
  delivers : Envelope.Delivers t.payload envelope
  headerIds : b'.headerIds = b.headerIds.insert device envelope.heading.headerId
  named : ∀ given, command.orderId? = some given → t.orderId = given
  free : b.store.row? t.orderId = none
  records : ∀ {orderId}, orderId ≠ t.orderId → b'.store.row? orderId = b.store.row? orderId
  commands : ∀ {orderId}, orderId ≠ t.orderId →
    b'.pending.find? orderId = b.pending.find? orderId
  rest : b' =
    { b with
      store := b'.store
      pending := b'.pending
      headerIds := b'.headerIds
      uuids := b'.uuids }

/-- The payload is on its way: the record is sent, and a direct command is pending. -/
structure Sent (now : Time.Moment) (device : String) (via : Option Transport.Kind)
    (command : Command) (b : Bridge) (envelope : Envelope) (t : Ticket)
    (answer : Except Error Dispatched) (b' : Bridge) : Prop where
  answer : answer = .ok
    { orderId := t.orderId
      device
      status := .sent
      transport := via.getD b.preferred
      headerId := envelope.heading.headerId
      destination :=
        b.resolver.resolve envelope.heading.serialNumber envelope.heading.manufacturer
          envelope.kind (via.getD b.preferred) }
  record : b'.store.get t.orderId =
    .ok { Record.ofDraft now.instant (command.draft t.orderId device) with status := .sent }
  command : b'.pending.find? t.orderId =
    match command.text? with
    | none => b.pending.find? t.orderId
    | some text => some (.register now t.orderId device text envelope.actionIds)

/-- The payload was called off: the record is gone. -/
structure Withdrawn (t : Ticket) (answer : Except Error Dispatched) (b' : Bridge) : Prop where
  answer : answer = .error (.transport .cancelled)
  record : b'.store.row? t.orderId = none
  command : b'.pending.find? t.orderId = none

/-- The payload did not get through: the record says why. -/
structure Failed (now later : Time.Moment) (device : String) (command : Command) (t : Ticket)
    (failure : Transport.Failure) (answer : Except Error Dispatched) (b' : Bridge) :
    Prop where
  answer : answer = .error (.transport failure)
  record : b'.store.get t.orderId =
    .ok
      { Record.ofDraft now.instant (command.draft t.orderId device) with
        status := .failed
        errorMessage := some failure.message
        completedAt := some later.instant.cut }
  command : b'.pending.find? t.orderId = none

inductive Ending where
  | refused
  | sent
  | withdrawn
  | failed

def Ending.Holds (now later : Time.Moment) (device : String) (via : Option Transport.Kind)
    (command : Command) (reply : Ticket → Except Transport.Failure Unit) (b : Bridge)
    (result : Except Error Dispatched × List Ticket × Bridge) : Ending → Prop
  | .refused => Refused device command b result.1 result.2.1 result.2.2
  | .sent =>
      ∃ envelope t, Handed now device via command b envelope t result.2.1 result.2.2 ∧
        reply t = .ok () ∧ Sent now device via command b envelope t result.1 result.2.2
  | .withdrawn =>
      ∃ envelope t, Handed now device via command b envelope t result.2.1 result.2.2 ∧
        reply t = .error .cancelled ∧ Withdrawn t result.1 result.2.2
  | .failed =>
      ∃ envelope t failure, Handed now device via command b envelope t result.2.1 result.2.2 ∧
        failure ≠ .cancelled ∧ reply t = .error failure ∧
        Failed now later device command t failure result.1 result.2.2

def Ending.ofAnswer : Except Error Dispatched → Ending
  | .ok _ => .sent
  | .error (.transport .cancelled) => .withdrawn
  | .error (.transport _) => .failed
  | .error _ => .refused

theorem Ending.Holds.eq_ofAnswer {now later : Time.Moment} {device : String}
    {via : Option Transport.Kind} {command : Command}
    {reply : Ticket → Except Transport.Failure Unit} {b : Bridge}
    {result : Except Error Dispatched × List Ticket × Bridge} {ending : Ending}
    (h : ending.Holds now later device via command reply b result) :
    ending = ofAnswer result.1 := by
  cases ending with
  | refused =>
      rcases h.reason with ⟨_, _, _, _, _, h, _⟩ | ⟨_, h, _⟩ | ⟨_, _, _, h, _⟩
      · rw [h]
        rfl
      · rw [h]
        rfl
      · rw [h]
        rfl
  | sent =>
      rcases h with ⟨_, _, _, _, h⟩
      rw [h.answer]
      rfl
  | withdrawn =>
      rcases h with ⟨_, _, _, _, h⟩
      rw [h.answer]
      rfl
  | failed =>
      rcases h with ⟨_, _, failure, _, hfailure, _, h⟩
      rw [h.answer]
      cases failure with
      | cancelled => exact absurd rfl hfailure
      | _ => rfl

/-!
# What the answer of the transport does to a new record
-/

theorem isAllBlank_message (failure : Transport.Failure) :
    Text.isAllBlank failure.message = false := by
  unfold Transport.Failure.message
  cases failure with
  | cancelled => decide
  | _ =>
      repeat apply Text.isAllBlank_append_of_left
      decide

section

variable {now : Time.Moment} {t : Ticket} {b : Bridge} {row : Row} {r : Record}

theorem finish_ok_of_created (hnow : now.IsDatable) (hrow : b.store.row? t.orderId = some row)
    (hr : row.record = .ok r) (hcreated : r.status = .created) :
    ∃ store, b.finish now t (.ok ()) =
        (.ok
          { orderId := t.orderId
            device := t.device
            status := .sent
            transport := t.transport
            headerId := t.headerId
            destination := t.destination },
          { b with store }) ∧
      store.get t.orderId = .ok { r with status := .sent } := by
  have hinstant := Time.Moment.isDatable_instant hnow
  have ha : r.status.admits .sent = true := by
    rw [hcreated]
    rfl
  refine ⟨_, ?_, Store.get_of_row? (row?_settled hrow)
    (@Row.record_moved now.instant hinstant row.land r hr .sent none)⟩
  simp only [finish, recordOutcome, Store.commitSent,
    Store.settle_of_admits hinstant hrow hr ha none]
  rfl

theorem finish_cancelled_of_created (hrow : b.store.row? t.orderId = some row)
    (hr : row.record = .ok r) (hflag : row.inFlight = true) (hcreated : r.status = .created) :
    ∃ store, b.finish now t (.error .cancelled) =
        (.error (.transport .cancelled),
          { b with store, pending := b.pending.erase t.orderId }) ∧
      store.row? t.orderId = none := by
  have hstranded : row.isStranded = true := (Row.isStranded_iff hr).mpr ⟨hflag, hcreated⟩
  refine ⟨b.store.discard t.orderId, rfl, ?_⟩
  rw [Store.row?_discard_self, hrow, Option.bind_some, if_pos hstranded]

theorem finish_failed_of_created (hnow : now.IsDatable) {failure : Transport.Failure}
    (hfailure : failure ≠ .cancelled) (hrow : b.store.row? t.orderId = some row)
    (hr : row.record = .ok r) (hcreated : r.status = .created) :
    ∃ store, b.finish now t (.error failure) =
        (.error (.transport failure), { b with store, pending := b.pending.erase t.orderId }) ∧
      store.get t.orderId =
        .ok
          { r with
            status := .failed
            errorMessage := some failure.message
            completedAt := some now.instant.cut } := by
  have hinstant := Time.Moment.isDatable_instant hnow
  have ha : r.status.admits .failed = true := by
    rw [hcreated]
    rfl
  have hmessage : Columns.messageFor .failed (some failure.message) = some failure.message := by
    simp [Columns.messageFor, isAllBlank_message]
  have hmoved := Store.get_of_row? (row?_settled hrow)
    (@Row.record_moved now.instant hinstant row.land r hr .failed (some failure.message))
  simp only [Record.moved, hmessage, Option.some_or] at hmoved
  refine ⟨_, ?_, hmoved⟩
  simp only [finish, recordOutcome_of_failure hfailure, Store.commitFailed,
    Store.settle_of_admits hinstant hrow hr ha (some failure.message)]

end

/-!
# Every dispatch has one ending
-/

section

variable {now later : Time.Moment} {device : String} {via : Option Transport.Kind}
  {command : Command} {b b' : Bridge} {envelope : Envelope} {t : Ticket}

theorem Issued.delivers (h : Issued now device via command b envelope t b')
    (hnow : now.IsDatable) : Envelope.Delivers t.payload envelope := by
  have hlegible : envelope.heading.timestamp.IsLegible := by
    rw [h.heading]
    exact (Time.Moment.isDatable_instant hnow).isLegible
  rw [h.ticket]
  exact Envelope.delivers_wire hlegible

theorem Issued.handed (h : Issued now device via command b envelope t b') (hnow : now.IsDatable)
    (sent : Except Transport.Failure Unit) :
    Handed now device via command b envelope t [t] (b'.finish later t sent).2 := by
  have hrest := rest_finish later t sent b'
  refine ⟨rfl, h.ticket, h.heading, h.asked, h.delivers hnow, ?_, ?_, h.free, ?_, ?_, ?_⟩
  · rw [hrest, h.heading]
    exact h.headerIds
  · intro given hgiven
    obtain ⟨content, hasks, _⟩ := h.asked
    exact hasks.eq_of_orderId? hgiven
  · intro orderId hne
    exact (row?_finish_of_ne hne sent b').trans (h.row?_of_ne hne)
  · intro orderId hne
    exact (find?_finish_of_ne hne sent b').trans (h.find?_of_ne hne)
  · rw [hrest, h.rest]

theorem Issued.exists_ending (h : Issued now device via command b envelope t b')
    (hnow : now.IsDatable) (hlater : later.IsDatable)
    (reply : Ticket → Except Transport.Failure Unit) :
    ∃ ending : Ending, ending.Holds now later device via command reply b
      ((b'.finish later t (reply t)).1, [t], (b'.finish later t (reply t)).2) := by
  have hrow := h.row?_self
  have hr := Row.record_ofDraft (Time.Moment.isDatable_instant hnow)
    (command.draft t.orderId device)
  have hhanded : Handed now device via command b envelope t [t] (b'.finish later t (reply t)).2 :=
    h.handed hnow (reply t)
  have hdevice : t.device = device := by rw [h.ticket]
  cases hreply : reply t with
  | ok _ =>
      rw [hreply] at hhanded
      rcases finish_ok_of_created hlater hrow hr rfl with ⟨store, hfinish, hget⟩
      rw [hfinish] at hhanded ⊢
      refine ⟨.sent, envelope, t, hhanded, hreply, ?_, hget, h.find?_self⟩
      rw [h.ticket]
  | error failure =>
      rw [hreply] at hhanded
      by_cases hfailure : failure = .cancelled
      · subst hfailure
        rcases @finish_cancelled_of_created later t b' _ _ hrow hr rfl rfl with
          ⟨store, hfinish, hgone⟩
        rw [hfinish] at hhanded ⊢
        exact ⟨.withdrawn, envelope, t, hhanded, hreply, rfl, hgone,
          Pending.find?_erase_self _ _⟩
      · rcases finish_failed_of_created hlater hfailure hrow hr rfl with
          ⟨store, hfinish, hget⟩
        rw [hfinish] at hhanded ⊢
        exact ⟨.failed, envelope, t, failure, hhanded, hfailure, hreply, rfl, hget,
          Pending.find?_erase_self _ _⟩

/-- Whatever the bridge has been through, a dispatch during which nothing else happens comes
to one of its four endings, and to no other. -/
theorem existsUnique_ending (hnow : now.IsDatable) (hlater : later.IsDatable)
    (device : String) (via : Option Transport.Kind) (command : Command)
    (reply : Ticket → Except Transport.Failure Unit) (b : Bridge) :
    ∃! ending : Ending, ending.Holds now later device via command reply b
      (b.call now later device via command reply) := by
  have hexists : ∃ ending : Ending, ending.Holds now later device via command reply b
      (b.call now later device via command reply) := by
    have hissues := issues_start now device via command b
    unfold call
    generalize b.start now device via command = result at hissues
    cases hissues with
    | missing hcommand hmissing =>
        exact ⟨.refused, rfl, rfl, Or.inl ⟨_, _, _, hcommand, hmissing, rfl, rfl⟩⟩
    | offline hoffline => exact ⟨.refused, rfl, rfl, Or.inr (Or.inl ⟨hoffline, rfl, rfl⟩)⟩
    | taken hnamed htaken =>
        exact ⟨.refused, rfl, rfl, Or.inr (Or.inr ⟨_, hnamed, htaken, rfl, rfl⟩)⟩
    | issued h => exact h.exists_ending hnow hlater reply
  rcases hexists with ⟨ending, hending⟩
  refine ⟨ending, hending, ?_⟩
  intro other hother
  rw [hother.eq_ofAnswer, hending.eq_ofAnswer]

end

/-- A bridge that knows one robot and one order, which lifts a load. -/
def stocked : Bridge :=
  { ((World.calm idle).run (underway.take 1)).bridge with
    library := .ofCatalog
      { actions :=
          [{ id := "lift", actionType := "lift", blocking := .hard, description := none
             parameters := [("height", .string "low"), ("side", .string "left")] }]
        orders :=
          [{ id := "fetch", name := "", edges := []
             nodes :=
               [{ nodeId := "dock", sequenceId := 0, released := true, position := none
                  actionTemplateIds := ["lift"] }] }] } }

def half : Json.Value :=
  .number (.real 0.5 (by decide +kernel))

/-- The graph of that order with another height in place. -/
def lifting : Graph :=
  { nodes :=
      [{ nodeId := "dock", sequenceId := 0, released := true, position := none
         actions :=
           [{ actionType := "lift"
              actionId := "lift-00000000-0000-0000-0000-000000000000"
              description := none
              blocking := .hard
              parameters := [⟨"height", half⟩, ⟨"side", .string "left"⟩] }] }]
    edges := [] }

theorem isReadable_lifting {o : Order} (hnow : o.timestamp.IsLegible) (hgraph : o.graph = lifting) :
    (Envelope.order o).IsReadable := by
  obtain ⟨headerId, timestamp, version, manufacturer, serialNumber, orderId, update, graph⟩ := o
  cases hgraph
  refine ⟨⟨hnow, Graph.isNormal_of_actions ?_ ?_⟩, ?_, ?_⟩
  · intro n hn p hp
    obtain rfl := List.mem_singleton.mp hn
    cases hp
  · intro a ha p hp
    obtain rfl := List.mem_singleton.mp ha
    simp only [List.mem_cons, List.not_mem_nil, or_false] at hp
    rcases hp with rfl | rfl
    · exact .number _
    · exact .string _
  · exact Nat.le_of_ble_eq_true rfl
  · intro x hx
    obtain rfl : x = 0.5 := List.mem_singleton.mp hx
    unfold Json.ReadsBack
    decide +kernel

theorem existsUnique_ending_overridden :
    let command : Command := .order "fetch" [("height", half)]
    let result := stocked.call (second 2) (second 3) "agv-01" none command (fun _ => .ok ())
    Ending.Holds (second 2) (second 3) "agv-01" none command (fun _ => .ok ()) stocked result
        .sent ∧
      ∃ t o, result.2.1 = [t] ∧
        (Order.codec.parse (Text.glyphs t.payload.toUTF8.toList)).toOption = some o ∧
          o.heading =
            { headerId := 1
              timestamp := (second 2).instant
              version := "2.0.0"
              manufacturer := "acme"
              serialNumber := "agv-01" } ∧
            o.orderId = t.orderId ∧ o.graph = lifting := by
  intro command result
  have hnow : (second 2).IsDatable := by decide +kernel
  have hlater : (second 3).IsDatable := by decide +kernel
  have hanswer : result.1.map Dispatched.status = .ok .sent := by decide +kernel
  rcases existsUnique_ending hnow hlater "agv-01" none command (fun _ => .ok ()) stocked with
    ⟨ending, hending, _⟩
  have hsent : ending = .sent := by
    rw [hending.eq_ofAnswer]
    cases hresult : result.1 with
    | error e =>
        rw [hresult] at hanswer
        cases hanswer
    | ok d => rfl
  subst hsent
  refine ⟨hending, ?_⟩
  obtain ⟨envelope, t, hhanded, -, -⟩ := hending
  obtain ⟨content, hasks, hcarries⟩ : ∃ content,
      Command.Asks stocked t.orderId (.order "fetch" [("height", half)]) content ∧
        envelope.Carries content := hhanded.asked
  cases hasks with
  | order hexpand =>
      cases envelope with
      | order o =>
          obtain ⟨hid, -, hgraph⟩ := hcarries
          have hlifting : o.graph = lifting := by
            rw [hgraph]
            cases hexpand
            rfl
          have htimestamp : o.timestamp = (second 2).instant :=
            congrArg Heading.timestamp hhanded.heading
          have hreadable : (Envelope.order o).IsReadable := by
            apply isReadable_lifting _ hlifting
            rw [htimestamp]
            exact (Time.Moment.isDatable_instant hnow).isLegible
          exact ⟨t, o, hhanded.only, hhanded.delivers.order hreadable, hhanded.heading, hid,
            hlifting⟩
      | _ => cases hcarries

end Bridge
end FleetBridge
