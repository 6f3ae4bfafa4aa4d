import FleetBridge.Bridge.Basic

/-!
# Settling commands

The ways in which a dispatched command comes to an end: a robot reports it done or
failed, an operator cancels it, or it is given up together with others.  The record
follows as far as its lifecycle admits, and the result is reported in any case.
-/

namespace FleetBridge
namespace Bridge

open Message

def cancelReason : String := "cancelled by operator"

/-- Moves a record if its lifecycle admits that. -/
def finalize (now : Time.Moment) (orderId : String) (status : Record.Status)
    (message : Option String) (b : Bridge) : Bridge :=
  match b.store.update now.instant orderId status message with
  | .ok (_, store) => { b with store }
  | .error _ => b

/-- Ends a command that is no longer pending. -/
def conclude (now : Time.Moment) (status : Record.Status) (verdict : Verdict)
    (message : Option String) (c : Pending.Command) (b : Bridge) : CommandResult × Bridge :=
  let result := c.result now verdict message
  (result, (b.finalize now c.key status message).report now result)

def settle (now : Time.Moment) (s : Pending.Settlement) (b : Bridge) :
    CommandResult × Bridge :=
  b.conclude now (if s.verdict == .success then .completed else .failed) s.verdict s.message
    s.command

def forEach (f : α → Bridge → β × Bridge) : List α → Bridge → List β × Bridge
  | [], b => ([], b)
  | a :: rest, b =>
      let (r, b) := f a b
      let (rs, b) := forEach f rest b
      (r :: rs, b)

def failCommands (now : Time.Moment) (reason : String) (cs : List Pending.Command)
    (b : Bridge) : List CommandResult × Bridge :=
  forEach (conclude now .failed .failure (some reason)) cs b

def failAll (now : Time.Moment) (reason : String) (b : Bridge) :
    List CommandResult × Bridge :=
  let (cs, pending) := b.pending.takeAll
  failCommands now reason cs { b with pending }

def failDevice (now : Time.Moment) (device reason : String) (b : Bridge) :
    List CommandResult × Bridge :=
  let (cs, pending) := b.pending.takeDevice device
  failCommands now reason cs { b with pending }

/-- What is said about a command that took longer than `ttl` nanoseconds. -/
def expiryReason (ttl : Nat) : String :=
  "no result within " ++ Decimal.text (ttl / Time.Span.nanosPerSecond) ++ "s"

/-- Fails the pending commands that are older than `ttl` nanoseconds. -/
def expire (now : Time.Moment) (ttl : Nat) (b : Bridge) : List CommandResult × Bridge :=
  let (cs, pending) := b.pending.takeExpired now ttl
  failCommands now (expiryReason ttl) cs { b with pending }

def updateOrder (now : Time.Moment) (orderId : String) (status : Record.Status)
    (message : Option String) (b : Bridge) : Except Error Record × Bridge :=
  match b.store.update now.instant orderId status message with
  | .ok (r, store) => (.ok r, { b with store })
  | .error e => (.error (.ofStore e), b)

/-- Cancels an order; if it is pending it is reported as failed. -/
def cancelOrder (now : Time.Moment) (orderId : String) (b : Bridge) :
    Except Error Record × Bridge :=
  match b.updateOrder now orderId .cancelled (some cancelReason) with
  | (.ok r, b) =>
      match b.pending.find? orderId with
      | none => (.ok r, b)
      | some c =>
          (.ok r, { b with pending := b.pending.erase orderId }.report now
            (c.result now .failure (some cancelReason)))
  | failed => failed

def markStarted (now : Time.Moment) (orderId : String) (b : Bridge) :
    Except Error Record × Bridge :=
  b.updateOrder now orderId .started none

def markCompleted (now : Time.Moment) (orderId : String) (b : Bridge) :
    Except Error Record × Bridge :=
  b.updateOrder now orderId .completed none

def markFailed (now : Time.Moment) (orderId reason : String) (b : Bridge) :
    Except Error Record × Bridge :=
  b.updateOrder now orderId .failed (some reason)

def ofStoreAnswer : Except Record.Store.Error α → Except Error α
  | .ok a => .ok a
  | .error e => .error (.ofStore e)

def getOrder (orderId : String) (b : Bridge) : Except Error Record :=
  ofStoreAnswer (b.store.get orderId)

def ordersOfDevice (device : String) (limit offset : UInt64) (b : Bridge) :
    Except Error (List Record) :=
  ofStoreAnswer (b.store.listByDevice device limit offset)

def ordersInStatus (status : Record.Status) (b : Bridge) : Except Error (List Record) :=
  ofStoreAnswer (b.store.listByStatus status)

def countOrders (status : Record.Status) (device : Option String) (b : Bridge) : Nat :=
  b.store.countByStatus status device

end Bridge
end FleetBridge
