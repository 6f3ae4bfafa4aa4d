import FleetBridge.Bus
import FleetBridge.Inbound
import FleetBridge.Message.Request
import FleetBridge.Pending
import FleetBridge.Presence
import FleetBridge.Record.Store

/-!
# Steps on a wall clock

A step that stamps the time reads the wall clock.  Where the clock cannot be read
the step stops: it has no answer, and what it did before it came to the clock stays
done.  On a clock that can be read every step here is the plain one, and a step that
does not come to the clock does not depend on it.
-/

namespace FleetBridge

open Message

/-- What a step comes to: its answer, unless it stopped at the clock, and the state
that it leaves. -/
abbrev Clocked (α σ : Type) := Option α × σ

namespace Clocked

def unstamped (r : α × σ) : Clocked α σ :=
  (some r.1, r.2)

/-- A step that came to the clock in the state `halfway`. -/
def stamped (now : Time.Moment) (halfway : σ) (r : α × σ) : Clocked α σ :=
  if now.isReadable then unstamped r else (none, halfway)

theorem stamped_of_isReadable {now : Time.Moment} (h : now.isReadable = true) (halfway : σ)
    (r : α × σ) : stamped now halfway r = (some r.1, r.2) := by
  simp [stamped, unstamped, h]

/-! ## Envelopes and events -/

/-- The header id is taken before the envelope is stamped. -/
def build (r : Request) (now : Time.Moment) (ids : HeaderIds) (uuids : Uuid.Supply) :
    Clocked Envelope (HeaderIds × Uuid.Supply) :=
  stamped now ((ids.take r).2, uuids) (r.build now.instant ids uuids)

/-- A message is stamped once it has been read; one that is dropped is not stamped. -/
def inbound (resolver : Destination.Resolver) (now : Time.Moment) (id : Uuid)
    (topic : String) (bytes : List UInt8) : Clocked (Option Event) Unit :=
  match Inbound.event? resolver now.instant id topic bytes with
  | none => unstamped (none, ())
  | some e => stamped now () (some e, ())

/-- Publishes events one after the other; the answer is how many subscribers each of
them reached.  Every event is stamped when its turn comes. -/
def publish (now : Time.Moment) (topic : Option Topic) (es : List Event) (b : Bus) :
    Clocked (List Nat) Bus :=
  let r := es.foldl
    (fun (counts, b) e =>
      let (n, b) := b.publishTo (topic.getD e.payload.topic) e
      (counts ++ [n], b))
    ([], b)
  if es.isEmpty then unstamped r else stamped now b r

/-! ## Pending commands -/

def register (now : Time.Moment) (key device text : String) (actionIds : List String)
    (s : Pending) : Clocked (Option Pending.Command) Pending :=
  stamped now s (s.find? key, s.insert (.register now key device text actionIds))

def conclude (now : Time.Moment) (key : String) (verdict : Verdict) (message : Option String)
    (s : Pending) : Clocked (Option CommandResult) Pending :=
  match s.find? key with
  | none => unstamped (none, s)
  | some c => stamped now (s.erase key) (some (c.result now verdict message), s.erase key)

/-! ## Presence -/

/-- Whether a robot is there is noted before when it was seen. -/
def setOnline (now : Time.Moment) (device : String) (manufacturer : Option String)
    (p : Presence) : Clocked Unit Presence :=
  stamped now (p.flag true device) ((), p.setOnline now.instant device manufacturer)

def setOffline (now : Time.Moment) (device : String) (p : Presence) : Clocked Bool Presence :=
  if p.isOnline device then
    stamped now (p.flag false device) (true, p.setOffline now.instant device)
  else unstamped (false, p)

def observeConnection (now : Time.Moment) (c : Connection) (p : Presence) :
    Clocked Bool Presence :=
  if c.status.isOnline then
    let (seen, p) := setOnline now c.serialNumber (some c.manufacturer) p
    (seen.map (fun _ => true), p)
  else
    let (seen, p) := setOffline now c.serialNumber p
    (seen.map (fun _ => false), p)

def observeState (now : Time.Moment) (s : State) (p : Presence) : Clocked Unit Presence :=
  setOnline now s.serialNumber (some s.manufacturer) p

/-- Only a robot that was not known before gets a stamp. -/
def observeFactsheet (now : Time.Moment) (device : String) (document : Json.Value)
    (p : Presence) : Clocked Unit Presence :=
  let r := ((), p.observeFactsheet now.instant device document)
  if (Presence.makerIn? document).isSome && (p.lastSeen? device).isNone then stamped now p r
  else unstamped r

/-! ## Records -/

/-- A store that stays as it was where there is an error. -/
def orKept (s : Record.Store) : Except ε (α × Record.Store) → Except ε α × Record.Store
  | .error e => (.error e, s)
  | .ok (a, next) => (.ok a, next)

/-- The creation is stamped before anything is checked. -/
def begin (now : Time.Moment) (d : Record.Draft) (s : Record.Store) :
    Clocked (Except Record.Store.Error Unit) Record.Store :=
  stamped now s (orKept s ((s.begin now.instant d).map (fun next => ((), next))))

/-- A move is stamped once the lifecycle has admitted it. -/
def update (now : Time.Moment) (orderId : String) (status : Record.Status)
    (message : Option String) (s : Record.Store) :
    Clocked (Except Record.Store.Error Record) Record.Store :=
  let r := orKept s (s.update now.instant orderId status message)
  match s.transition now.instant orderId status message with
  | .error _ => unstamped r
  | .ok _ => stamped now s r

/-- Ends a dispatch; one that stops at the clock stays in flight. -/
def settle (now : Time.Moment) (orderId : String) (status : Record.Status)
    (message : Option String) (s : Record.Store) :
    Clocked (Except Record.Store.Error Record) Record.Store :=
  let r := s.settle now.instant orderId status message
  match s.transition now.instant orderId status message with
  | .error _ => unstamped r
  | .ok _ => stamped now s r

def commitSent (now : Time.Moment) (orderId : String) (s : Record.Store) :
    Clocked (Except Record.Store.Error Record) Record.Store :=
  settle now orderId .sent none s

def commitFailed (now : Time.Moment) (orderId reason : String) (s : Record.Store) :
    Clocked (Except Record.Store.Error Record) Record.Store :=
  settle now orderId .failed (some reason) s

/-- The first record to fail comes to the clock; without one there is nothing to
stamp. -/
def recover (now : Time.Moment) (s : Record.Store) :
    Clocked (Except Record.Store.Error (List Record)) Record.Store :=
  let r := orKept s (s.recover now.instant)
  match s.rows.find? Record.Row.isStranded with
  | none => unstamped r
  | some row =>
      match s.transition now.instant row.orderId .failed none with
      | .error _ => unstamped r
      | .ok _ => stamped now s r

end Clocked
end FleetBridge
