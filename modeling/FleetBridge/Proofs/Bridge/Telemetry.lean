import FleetBridge.Proofs.Bridge.Bystander
import FleetBridge.Proofs.Record.Device
import FleetBridge.Proofs.StatusCache

/-!
# Messages of robots

States, connections and factsheets are taken in along one path: the bridge takes note of
the robot, takes out the commands that the message decides, and settles them one after the
other.  A connection that is gone decides all commands of its robot, a factsheet none.
-/

namespace FleetBridge

namespace Message

def Payload.device : Payload → String
  | .state s => s.serialNumber
  | .connection c => c.serialNumber
  | .factsheet f => f.device
  | .statusChanged c => c.device
  | .commandResult r => r.device

end Message

namespace Bridge

open Message Record

inductive Telemetry where
  | state (s : State)
  | connection (c : Connection)
  | factsheet (f : Factsheet)

/-!
# Passing a status on
-/

def passes (now : Time.Moment) (device : String) (status : Summary) (b : Bridge) : Bool :=
  b.statuses.isDue device status now.elapsed && (letThrough device now.elapsed b.limiter).1

theorem letThrough_of_refused {device : String} {now : Nat} {l : Option RateLimiter}
    (h : (letThrough device now l).1 = false) : (letThrough device now l).2 = l := by
  cases l with
  | none => cases h
  | some l =>
      simp only [letThrough, RateLimiter.allow] at h ⊢
      cases hadmits : l.admits device now with
      | true =>
          rw [hadmits, if_pos rfl] at h
          cases h
      | false => rfl

theorem checkWith_letThrough (now : Time.Moment) (device : String) (status : Summary)
    (b : Bridge) :
    b.statuses.checkWith (letThrough device now.elapsed) device status now.elapsed b.limiter =
      if b.passes now device status then
        (true, (letThrough device now.elapsed b.limiter).2,
          b.statuses.update device status now.elapsed)
      else (false, b.limiter, b.statuses.refresh device now.elapsed) := by
  rw [StatusCache.checkWith_eq, passes]
  cases b.statuses.isDue device status now.elapsed with
  | false => rfl
  | true =>
      cases hasked : (letThrough device now.elapsed b.limiter).1 with
      | true => rfl
      | false =>
          rw [letThrough_of_refused hasked]
          rfl

theorem observeStatus_eq (now : Time.Moment) (device : String) (status : Summary)
    (b : Bridge) :
    b.observeStatus now device status =
      if b.passes now device status then
        { b with
          limiter := (letThrough device now.elapsed b.limiter).2
          statuses := b.statuses.update device status now.elapsed }.publish now
            "fleetlink-runtime::ingest" (.statusChanged { device, status })
      else { b with statuses := b.statuses.refresh device now.elapsed } := by
  simp only [observeStatus]
  rw [checkWith_letThrough]
  cases b.passes now device status <;> rfl

/-!
# What was said
-/

/-- An event apart from the identifier that was drawn for it. -/
structure Saying where
  time : Time.Instant
  source : String
  payload : Payload

def said (b : Bridge) : List Saying :=
  b.published.map (fun e => { time := e.timestamp, source := e.source, payload := e.payload })

theorem said_publish (now : Time.Moment) (source : String) (payload : Payload) (b : Bridge) :
    (b.publish now source payload).said = b.said ++ [{ time := now.instant, source, payload }] :=
  List.map_append

def statusNews (now : Time.Moment) (device : String) (status : Summary) (b : Bridge) :
    List Saying :=
  if b.passes now device status then
    [ { time := now.instant
        source := "fleetlink-runtime::ingest"
        payload := .statusChanged { device, status } } ]
  else []

theorem said_observeStatus (now : Time.Moment) (device : String) (status : Summary)
    (b : Bridge) :
    (b.observeStatus now device status).said = b.said ++ b.statusNews now device status := by
  rw [observeStatus_eq, statusNews]
  split
  · exact said_publish now _ _ _
  · exact (List.append_nil _).symm

def resultNews (now : Time.Moment) (d : Pending.Settlement) : Saying :=
  { time := now.instant
    source := "fleetlink-runtime::engine"
    payload := .commandResult (d.command.result now d.verdict d.message) }

theorem said_settle (now : Time.Moment) (d : Pending.Settlement) (b : Bridge) :
    (settle now d b).2.said = b.said ++ if b.reportsResults then [resultNews now d] else [] := by
  simp only [settle, conclude]
  rw [rest_finalize, report]
  cases hreports : b.reportsResults with
  | true => exact said_publish now _ _ _
  | false => exact (List.append_nil _).symm

theorem said_forEach (now : Time.Moment) (ds : List Pending.Settlement) (b : Bridge) :
    (forEach (settle now) ds b).2.said =
      b.said ++ if b.reportsResults then ds.map (resultNews now) else [] := by
  induction ds generalizing b with
  | nil => cases b.reportsResults <;> exact (List.append_nil _).symm
  | cons d rest ih =>
      simp only [forEach]
      rw [ih, said_settle, (announces_settle now).reporting, List.append_assoc]
      cases b.reportsResults <;> rfl

/-!
# Records that are closed
-/

def closed (now : Time.Moment) (ds : List Pending.Settlement) (s : Store) : Store :=
  ds.foldl (fun s d => s.advance now.instant d.command.key (statusOf d.verdict) d.message) s

theorem store_finalize (now : Time.Moment) (orderId : String) (status : Status)
    (message : Option String) (b : Bridge) :
    (b.finalize now orderId status message).store =
      b.store.advance now.instant orderId status message := by
  rw [Store.advance_eq, finalize]
  cases b.store.update now.instant orderId status message <;> rfl

theorem store_forEach (now : Time.Moment) (ds : List Pending.Settlement) (b : Bridge) :
    (forEach (settle now) ds b).2.store = closed now ds b.store := by
  induction ds generalizing b with
  | nil => rfl
  | cons d rest ih =>
      simp only [forEach, closed, List.foldl_cons]
      rw [ih, (concludes_settle now).store, store_finalize]
      rfl

theorem row?_closed_of_ne {orderId : String} {ds : List Pending.Settlement}
    (h : ∀ d ∈ ds, orderId ≠ d.command.key) (now : Time.Moment) (s : Store) :
    (closed now ds s).row? orderId = s.row? orderId := by
  induction ds generalizing s with
  | nil => rfl
  | cons d rest ih =>
      rcases List.forall_mem_cons.mp h with ⟨hd, hrest⟩
      simp only [closed, List.foldl_cons]
      exact (ih hrest _).trans (Store.row?_advance_of_ne hd now.instant _ _ s)

theorem device?_closed (now : Time.Moment) (ds : List Pending.Settlement) (s : Store)
    (orderId : String) : (closed now ds s).device? orderId = s.device? orderId := by
  induction ds generalizing s with
  | nil => rfl
  | cons d rest ih =>
      simp only [closed, List.foldl_cons]
      exact (ih _).trans (Store.device?_advance now.instant _ _ _ s orderId)

theorem closed_advance_comm {orderId : String} {ds : List Pending.Settlement}
    (h : ∀ d ∈ ds, orderId ≠ d.command.key) (now : Time.Moment) (status : Status)
    (message : Option String) (s : Store) :
    closed now ds (s.advance now.instant orderId status message) =
      (closed now ds s).advance now.instant orderId status message := by
  induction ds generalizing s with
  | nil => rfl
  | cons d rest ih =>
      rcases List.forall_mem_cons.mp h with ⟨hd, hrest⟩
      simp only [closed, List.foldl_cons]
      rw [← closed, ← closed, ← ih hrest]
      congr 1
      exact Store.modify_comm hd _ _

/-- Records of different orders may be closed in either order. -/
theorem closed_comm {ds es : List Pending.Settlement}
    (h : ∀ d ∈ ds, ∀ e ∈ es, d.command.key ≠ e.command.key) (now : Time.Moment) (s : Store) :
    closed now es (closed now ds s) = closed now ds (closed now es s) := by
  induction ds generalizing s with
  | nil => rfl
  | cons d rest ih =>
      rcases List.forall_mem_cons.mp h with ⟨hd, hrest⟩
      have hfirst := closed_advance_comm hd now (statusOf d.verdict) d.message s
      simp only [closed, List.foldl_cons] at ih hfirst ⊢
      rw [ih hrest, hfirst]

/-!
# One path for all messages
-/

def waiting (device : String) (b : Bridge) : List Pending.Command :=
  b.pending.commands.filter (fun c => c.device == device)

namespace Telemetry

def device : Telemetry → String
  | state s => s.serialNumber
  | connection c => c.serialNumber
  | factsheet f => f.device

def handle (now : Time.Moment) (m : Telemetry) (b : Bridge) : List CommandResult × Bridge :=
  match m with
  | state s => b.handleState now s
  | connection c => b.handleConnection now c
  | factsheet f => ([], b.handleFactsheet now f)

def settle? (m : Telemetry) (c : Pending.Command) : Option Pending.Settlement :=
  match m with
  | state s => c.settle? s
  | connection n =>
      if !n.status.isOnline && c.device == n.serialNumber then
        some
          { command := c
            verdict := .failure
            message :=
              some ("device " ++ n.serialNumber ++ " reported " ++ absenceName n.status) }
      else none
  | factsheet _ => none

/-- Commands in the order in which a message settles them. -/
def inTurn (m : Telemetry) (cs : List Pending.Command) : List Pending.Command :=
  match m with
  | connection _ => Pending.oldestFirst cs
  | _ => cs

def decisions (m : Telemetry) (cs : List Pending.Command) : List Pending.Settlement :=
  (m.inTurn cs).filterMap m.settle?

def remaining (m : Telemetry) (p : Pending) : Pending :=
  p.filter (fun c => (m.settle? c).isNone)

def seen (now : Time.Moment) (m : Telemetry) (p : Presence) : Presence :=
  match m with
  | state s => p.observeState now.instant s
  | connection c => p.observeConnection now.instant c
  | factsheet f => p.observeFactsheet now.instant f.device f.document

/-- The bridge when it has taken note of a robot, and settled nothing yet. -/
def noted (now : Time.Moment) (m : Telemetry) (b : Bridge) : Bridge :=
  match m with
  | state s => b.noted now s
  | connection c =>
      { b with
        presence := b.presence.observeConnection now.instant c
        limiter :=
          if c.status.isOnline then b.limiter
          else b.limiter.map (RateLimiter.reset c.serialNumber) }
  | factsheet f => b.handleFactsheet now f

/-!
# What a message decides
-/

theorem command_of_settle? {m : Telemetry} {c : Pending.Command} {d : Pending.Settlement}
    (h : m.settle? c = some d) : d.command = c := by
  cases m with
  | state s => exact Pending.Command.command_of_settle? h
  | connection n =>
      simp only [settle?] at h
      split at h
      · cases h
        rfl
      · cases h
  | factsheet f => cases h

theorem device_of_settle? {m : Telemetry} {c : Pending.Command} {d : Pending.Settlement}
    (h : m.settle? c = some d) : c.device = m.device := by
  cases m with
  | state s =>
      simp only [settle?, Pending.Command.settle?] at h
      split at h
      · rename_i hdevice
        exact beq_iff_eq.mp hdevice
      · cases h
  | connection n =>
      simp only [settle?] at h
      split at h
      · rename_i hdevice
        exact beq_iff_eq.mp (Bool.and_eq_true_iff.mp hdevice).2
      · cases h
  | factsheet f => cases h

theorem settle?_of_ne {m : Telemetry} {c : Pending.Command} (h : c.device ≠ m.device) :
    m.settle? c = none := by
  cases hsettle : m.settle? c with
  | none => rfl
  | some d => exact absurd (device_of_settle? hsettle) h

theorem mem_inTurn_iff {m : Telemetry} {cs : List Pending.Command} {c : Pending.Command} :
    c ∈ m.inTurn cs ↔ c ∈ cs := by
  cases m with
  | connection n => exact List.mem_mergeSort
  | _ => exact Iff.rfl

theorem mem_decisions_iff {m : Telemetry} {b : Bridge} {d : Pending.Settlement} :
    d ∈ m.decisions (b.waiting m.device) ↔
      d.command ∈ b.pending.commands ∧ d.command.device = m.device ∧
        m.settle? d.command = some d := by
  simp only [decisions, List.mem_filterMap, mem_inTurn_iff, waiting, List.mem_filter,
    beq_iff_eq]
  constructor
  · intro h
    rcases h with ⟨c, ⟨hc, hdevice⟩, hd⟩
    rw [command_of_settle? hd]
    exact ⟨hc, hdevice, hd⟩
  · intro h
    rcases h with ⟨hc, hdevice, hd⟩
    exact ⟨d.command, ⟨hc, hdevice⟩, hd⟩

theorem mem_remaining_iff {m : Telemetry} {p : Pending} {c : Pending.Command} :
    c ∈ (m.remaining p).commands ↔ c ∈ p.commands ∧ m.settle? c = none := by
  simp [remaining, Pending.filter]

theorem remaining_eq_self {m : Telemetry} {p : Pending}
    (h : ∀ c ∈ p.commands, m.settle? c = none) : m.remaining p = p := by
  apply Pending.ext_commands
  apply List.filter_eq_self.mpr
  intro c hc
  rw [h c hc]
  rfl

/-!
# What is left of the bridge
-/

theorem decisions_state (s : State) (b : Bridge) :
    (state s).decisions (b.waiting s.serialNumber) = (b.pending.correlate s).1 := by
  show (b.waiting s.serialNumber).filterMap (Pending.Command.settle? s) = _
  rw [waiting, List.filterMap_filter]
  apply List.filterMap_congr
  intro c _
  unfold Pending.Command.settle?
  cases c.device == s.serialNumber <;> rfl

theorem decisions_connection {n : Connection} (h : n.status.isOnline = false) (b : Bridge) :
    (connection n).decisions (b.waiting n.serialNumber) =
      (b.pending.takeDevice n.serialNumber).1.map
        (fun c =>
          { command := c
            verdict := .failure
            message :=
              some ("device " ++ n.serialNumber ++ " reported " ++ absenceName n.status) }) := by
  show ((b.pending.takeDevice n.serialNumber).1).filterMap (connection n).settle? = _
  rw [← List.filterMap_eq_map]
  apply List.filterMap_congr
  intro c hc
  have hdevice := (Pending.mem_takeWhere_iff.mp hc).2
  simp only [settle?, h, hdevice]
  rfl

theorem remaining_connection {n : Connection} (h : n.status.isOnline = false) (p : Pending) :
    (connection n).remaining p = (p.takeDevice n.serialNumber).2 := by
  apply Pending.ext_commands
  apply List.filter_congr
  intro c _
  simp only [settle?, h]
  cases c.device == n.serialNumber <;> rfl

theorem forEach_map {α β γ : Type} (f : β → Bridge → γ × Bridge) (g : α → β) (as : List α)
    (b : Bridge) : forEach f (as.map g) b = forEach (fun a => f (g a)) as b := by
  induction as generalizing b with
  | nil => rfl
  | cons a rest ih =>
      simp only [List.map_cons, forEach]
      rw [ih]

/-- A message takes out the commands that it decides, and settles them one after the
other. -/
theorem handle_eq (now : Time.Moment) (m : Telemetry) (b : Bridge) :
    m.handle now b =
      forEach (settle now) (m.decisions (b.waiting m.device))
        { m.noted now b with pending := m.remaining b.pending } := by
  cases m with
  | state s =>
      show b.handleState now s = _
      rw [handleState_eq, device, decisions_state]
      rfl
  | connection n =>
      show b.handleConnection now n = _
      cases honline : n.status.isOnline with
      | true =>
          have hnone : ∀ c, (connection n).settle? c = none := by
            intro c
            simp only [settle?, honline]
            rfl
          have hdecisions : (connection n).decisions (b.waiting (connection n).device) = [] := by
            rw [decisions, List.filterMap_eq_nil_iff]
            exact fun c _ => hnone c
          rw [hdecisions, remaining_eq_self (fun c _ => hnone c)]
          simp only [handleConnection, noted, honline]
          rfl
      | false =>
          rw [device, decisions_connection honline, remaining_connection honline, forEach_map]
          simp only [handleConnection, failDevice, failCommands, noted, honline]
          rfl
  | factsheet f =>
      show ([], b.handleFactsheet now f) = _
      rw [remaining_eq_self (fun _ _ => rfl)]
      have hdecisions : (factsheet f).decisions (b.waiting (factsheet f).device) = [] := by
        rw [decisions, List.filterMap_eq_nil_iff]
        exact fun _ _ => rfl
      rw [hdecisions]
      rfl

theorem results_handle (now : Time.Moment) (m : Telemetry) (b : Bridge) :
    (m.handle now b).1 =
      (m.decisions (b.waiting m.device)).map
        (fun d => d.command.result now d.verdict d.message) := by
  rw [handle_eq]
  exact (announces_settle now).forEach_fst _ _

theorem pending_handle (now : Time.Moment) (m : Telemetry) (b : Bridge) :
    (m.handle now b).2.pending = m.remaining b.pending := by
  rw [handle_eq]
  exact (concludes_settle now).pending_forEach _ _

theorem store_noted (now : Time.Moment) (m : Telemetry) (b : Bridge) :
    (m.noted now b).store = b.store := by
  cases m with
  | state s => exact store_observeStatus _ _ _ _
  | connection n => rfl
  | factsheet f => rfl

theorem store_handle (now : Time.Moment) (m : Telemetry) (b : Bridge) :
    (m.handle now b).2.store = closed now (m.decisions (b.waiting m.device)) b.store := by
  rw [handle_eq, store_forEach]
  exact congrArg _ (store_noted now m b)

theorem rest_handle (now : Time.Moment) (m : Telemetry) (b : Bridge) :
    (m.handle now b).2 =
      { m.noted now b with
        store := (m.handle now b).2.store
        pending := (m.handle now b).2.pending
        uuids := (m.handle now b).2.uuids
        published := (m.handle now b).2.published } := by
  rw [handle_eq]
  refine ((spares_settle now).forEach.rest _ _).trans ?_
  rw [(concludes_settle now).pending_forEach]

/-!
# What is noted of a robot
-/

def statuses (now : Time.Moment) (m : Telemetry) (b : Bridge) : StatusCache Summary :=
  match m with
  | state s =>
      if b.passes now s.serialNumber s.summary then
        b.statuses.update s.serialNumber s.summary now.elapsed
      else b.statuses.refresh s.serialNumber now.elapsed
  | _ => b.statuses

def limiter (now : Time.Moment) (m : Telemetry) (b : Bridge) : Option RateLimiter :=
  match m with
  | state s =>
      if b.passes now s.serialNumber s.summary then
        (letThrough s.serialNumber now.elapsed b.limiter).2
      else b.limiter
  | connection c =>
      if c.status.isOnline then b.limiter
      else b.limiter.map (RateLimiter.reset c.serialNumber)
  | factsheet _ => b.limiter

def statusNews (now : Time.Moment) (m : Telemetry) (b : Bridge) : List Saying :=
  match m with
  | state s => b.statusNews now s.serialNumber s.summary
  | _ => []

def news (now : Time.Moment) (m : Telemetry) (b : Bridge) : List Saying :=
  m.statusNews now b ++
    if b.reportsResults then (m.decisions (b.waiting m.device)).map (resultNews now) else []

theorem rest_noted (now : Time.Moment) (m : Telemetry) (b : Bridge) :
    m.noted now b =
      { b with
        presence := m.seen now b.presence
        statuses := m.statuses now b
        limiter := m.limiter now b
        uuids := (m.noted now b).uuids
        published := (m.noted now b).published } := by
  cases m with
  | state s =>
      have hpasses : { b with presence := b.presence.observeState now.instant s }.passes now
          s.serialNumber s.summary = b.passes now s.serialNumber s.summary := rfl
      simp only [noted, Bridge.noted, observeStatus_eq, hpasses, statuses, limiter, seen]
      cases b.passes now s.serialNumber s.summary <;> rfl
  | connection c => rfl
  | factsheet f => rfl

theorem presence_handle (now : Time.Moment) (m : Telemetry) (b : Bridge) :
    (m.handle now b).2.presence = m.seen now b.presence := by
  rw [rest_handle, rest_noted]

theorem statuses_handle (now : Time.Moment) (m : Telemetry) (b : Bridge) :
    (m.handle now b).2.statuses = m.statuses now b := by
  rw [rest_handle, rest_noted]

theorem limiter_handle (now : Time.Moment) (m : Telemetry) (b : Bridge) :
    (m.handle now b).2.limiter = m.limiter now b := by
  rw [rest_handle, rest_noted]

theorem reportsResults_handle (now : Time.Moment) (m : Telemetry) (b : Bridge) :
    (m.handle now b).2.reportsResults = b.reportsResults := by
  rw [rest_handle, rest_noted]

theorem said_noted (now : Time.Moment) (m : Telemetry) (b : Bridge) :
    (m.noted now b).said = b.said ++ m.statusNews now b := by
  cases m with
  | state s => exact said_observeStatus now s.serialNumber s.summary _
  | connection c => exact (List.append_nil _).symm
  | factsheet f => exact (List.append_nil _).symm

theorem said_handle (now : Time.Moment) (m : Telemetry) (b : Bridge) :
    (m.handle now b).2.said = b.said ++ m.news now b := by
  have hreporting : (m.noted now b).reportsResults = b.reportsResults := by
    rw [rest_noted]
  have hsaid := said_noted now m b
  rw [handle_eq, said_forEach, news, ← List.append_assoc, ← hsaid, ← hreporting]
  rfl

theorem device_of_mem_news {now : Time.Moment} {m : Telemetry} {b : Bridge} {e : Saying}
    (h : e ∈ m.news now b) : e.payload.device = m.device := by
  rcases List.mem_append.mp h with hstatus | hresult
  · cases m with
    | state s =>
        simp only [statusNews, Bridge.statusNews] at hstatus
        split at hstatus
        · rw [List.mem_singleton.mp hstatus]
          rfl
        · cases hstatus
    | connection c => cases hstatus
    | factsheet f => cases hstatus
  · split at hresult
    · rcases List.mem_map.mp hresult with ⟨d, hd, rfl⟩
      exact (mem_decisions_iff.mp hd).2.1
    · cases hresult

end Telemetry

end Bridge
end FleetBridge
