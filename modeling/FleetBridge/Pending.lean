import FleetBridge.Message.Outcome
import FleetBridge.Time.Instant

/-!
# Pending commands

A command that was handed to a robot is not answered directly; its outcome shows
in the states that the robot reports later.  Until then the command is pending
under its key.  A state settles the commands of its robot that it decides, and
takes them out in the same step, so none is settled twice.
-/

namespace FleetBridge

open Message

namespace Pending

structure Command where
  key : String
  device : String
  /-- The command as it was given. -/
  text : String
  actionIds : List String
  createdAt : Time.Instant
  /-- When the command was registered, on the clock that only runs forward. -/
  registered : Nat
  deriving DecidableEq

namespace Command

def register (now : Time.Moment) (key device text : String) (actionIds : List String) :
    Command :=
  { key, device, text, actionIds, createdAt := now.instant, registered := now.elapsed }

def age (now : Time.Moment) (c : Command) : Nat :=
  now.elapsed - c.registered

def result (now : Time.Moment) (verdict : Verdict) (message : Option String)
    (c : Command) : CommandResult :=
  { correlationKey := c.key
    device := c.device
    commandText := c.text
    verdict
    message
    finishedAt := now.instant }

def isActiveIn (s : State) (c : Command) : Bool :=
  s.activeOrder? == some c.key

/-- The action states that say something about the command: those of the actions
it waits for, or all when it is the active order and waits for none. -/
def relevant (s : State) (c : Command) : List ActionState :=
  if c.actionIds.isEmpty && c.isActiveIn s then s.actionStates
  else s.actionStates.filter (fun a => c.actionIds.contains a.actionId)

def allReported (states : List ActionState) (c : Command) : Bool :=
  c.actionIds.all (fun id => states.any (fun a => a.actionId == id))

def verdict (s : State) (c : Command) : Verdict :=
  let states := c.relevant s
  match Verdict.ofStates states with
  | .success => if c.allReported states then .success else .inProgress
  | v => v

end Command

structure Settlement where
  command : Command
  verdict : Verdict
  message : Option String
  deriving DecidableEq

namespace Command

def settle? (s : State) (c : Command) : Option Settlement :=
  if c.device == s.serialNumber then
    match c.verdict s with
    | .inProgress => none
    | .success => some { command := c, verdict := .success, message := none }
    | .failure =>
        some
          { command := c
            verdict := .failure
            message := failureReason? (c.relevant s) }
  else none

end Command
end Pending

/-- The pending commands, one for each key, in the order in which they were
registered. -/
structure Pending where
  commands : List Pending.Command
  nodup : (commands.map Pending.Command.key).Nodup

namespace Pending

def empty : Pending where
  commands := []
  nodup := List.nodup_nil

def filter (p : Command → Bool) (s : Pending) : Pending where
  commands := s.commands.filter p
  nodup := s.nodup.sublist (List.filter_sublist.map Command.key)

def find? (key : String) (s : Pending) : Option Command :=
  s.commands.find? (fun c => c.key == key)

def erase (key : String) (s : Pending) : Pending :=
  s.filter (fun c => c.key != key)

/-- Registers a command; one with the same key makes way. -/
def insert (c : Command) (s : Pending) : Pending where
  commands := (s.erase c.key).commands ++ [c]
  nodup := by
    rw [List.map_append, List.nodup_append]
    refine ⟨(s.erase c.key).nodup, by simp, ?_⟩
    intro k hk k' hk' heq
    simp only [List.map_cons, List.map_nil, List.mem_singleton] at hk'
    subst hk'
    obtain ⟨d, hd, rfl⟩ := List.mem_map.1 hk
    have := (List.mem_filter.1 hd).2
    simp [heq] at this

def size (s : Pending) : Nat :=
  s.commands.length

def oldestFirst (cs : List Command) : List Command :=
  cs.mergeSort (fun a b => a.registered ≤ b.registered)

def ofDevice (device : String) (s : Pending) : List Command :=
  oldestFirst (s.commands.filter (fun c => c.device == device))

def takeWhere (p : Command → Bool) (s : Pending) : List Command × Pending :=
  (oldestFirst (s.commands.filter p), s.filter (fun c => !p c))

def takeAll (s : Pending) : List Command × Pending :=
  s.takeWhere (fun _ => true)

def takeDevice (device : String) (s : Pending) : List Command × Pending :=
  s.takeWhere (fun c => c.device == device)

/-- Takes out the commands that are older than `ttl` nanoseconds. -/
def takeExpired (now : Time.Moment) (ttl : Nat) (s : Pending) : List Command × Pending :=
  s.takeWhere (fun c => ttl < c.age now)

def correlate (state : State) (s : Pending) : List Settlement × Pending :=
  (s.commands.filterMap (Command.settle? state),
    s.filter (fun c => (c.settle? state).isNone))

end Pending
end FleetBridge
