import FleetBridge.Json.Value
import FleetBridge.Keyed
import FleetBridge.Message.Telemetry
import FleetBridge.Time.Instant

/-!
# Presence

Which robots can be reached, and who made them.  A robot that reports a state or
a connection is there; one that says it goes, or is reported as broken off, is
not.  A maker is remembered until another one is named.
-/

namespace FleetBridge

open Message

namespace Presence

structure Entry where
  online : Bool
  manufacturer : Option String
  lastSeen : Time.Instant
  deriving DecidableEq

end Presence

structure Presence where
  devices : Keyed String Presence.Entry
  /-- The maker of robots that never named one. -/
  fallback : String

namespace Presence

def defaultFallback : String := "fleetlink"

def of (fallback : String) : Presence :=
  { devices := .empty, fallback }

def named? (manufacturer : String) : Option String :=
  if manufacturer.isEmpty then none else some manufacturer

def setOnline (now : Time.Instant) (device : String) (manufacturer : Option String)
    (p : Presence) : Presence :=
  let known := (p.devices.find? device).bind Entry.manufacturer
  { p with
    devices := p.devices.insert device
      { online := true
        manufacturer := (manufacturer.bind named?).or known
        lastSeen := now } }

def isOnline (device : String) (p : Presence) : Bool :=
  ((p.devices.find? device).map Entry.online).getD false

/-- Takes note that a robot is gone; one that was not there is left alone. -/
def setOffline (now : Time.Instant) (device : String) (p : Presence) : Presence :=
  if p.isOnline device then
    { p with
      devices := p.devices.modify device
        (fun e => { e with online := false, lastSeen := now }) }
  else p

/-- Notes whether a robot that is known is there, and leaves all else. -/
def flag (online : Bool) (device : String) (p : Presence) : Presence :=
  { p with devices := p.devices.modify device (fun e => { e with online }) }

def observeConnection (now : Time.Instant) (c : Connection) (p : Presence) : Presence :=
  if c.status.isOnline then p.setOnline now c.serialNumber (some c.manufacturer)
  else p.setOffline now c.serialNumber

/-- A robot that reports its state is there. -/
def observeState (now : Time.Instant) (s : State) (p : Presence) : Presence :=
  p.setOnline now s.serialNumber (some s.manufacturer)

def makerIn? (document : Json.Value) : Option String :=
  ((document.member? "manufacturer").bind Json.Value.text?).bind named?

/-- Takes note of the maker that a factsheet names; whether the robot is there
stays as it was. -/
def observeFactsheet (now : Time.Instant) (device : String) (document : Json.Value)
    (p : Presence) : Presence :=
  match makerIn? document with
  | none => p
  | some maker =>
      let e := (p.devices.find? device).getD
        { online := false, manufacturer := none, lastSeen := now }
      { p with devices := p.devices.insert device { e with manufacturer := some maker } }

def manufacturer (device : String) (p : Presence) : String :=
  ((p.devices.find? device).bind Entry.manufacturer).getD p.fallback

def lastSeen? (device : String) (p : Presence) : Option Time.Instant :=
  (p.devices.find? device).map Entry.lastSeen

def online (p : Presence) : List String :=
  (p.devices.filter (fun _ e => e.online)).keys.mergeSort (fun a b => !decide (b < a))

end Presence
end FleetBridge
