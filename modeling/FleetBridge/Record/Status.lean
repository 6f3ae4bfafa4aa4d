import FleetBridge.Json.Codec

/-!
# The lifecycle of a record

A record of a dispatched command is created, sent, perhaps started, and ends in
one of three ways.  Failing and cancelling are possible at any time before the
end.
-/

namespace FleetBridge
namespace Record

inductive Status where
  | created
  | sent
  | started
  | completed
  | failed
  | cancelled
  deriving DecidableEq

namespace Status

def all : List Status :=
  [created, sent, started, completed, failed, cancelled]

def name : Status → String
  | created => "CREATED"
  | sent => "SENT"
  | started => "STARTED"
  | completed => "COMPLETED"
  | failed => "FAILED"
  | cancelled => "CANCELLED"

def ofName? (s : String) : Option Status :=
  all.find? (fun status => status.name == s)

def isFinal : Status → Bool
  | completed => true
  | failed => true
  | cancelled => true
  | _ => false

def admits : Status → Status → Bool
  | created, sent => true
  | sent, started => true
  | sent, completed => true
  | started, completed => true
  | source, failed => !source.isFinal
  | source, cancelled => !source.isFinal
  | _, _ => false

def successors (s : Status) : List Status :=
  all.filter s.admits

def codec : Json.Codec Status :=
  .word all name

theorem ofName?_name (s : Status) : ofName? s.name = some s := by
  cases s <;> decide

theorem not_admits_of_isFinal {s t : Status} (h : s.isFinal = true) :
    s.admits t = false := by
  cases s <;> cases t <;> simp_all [isFinal, admits]

end Status
end Record
end FleetBridge
