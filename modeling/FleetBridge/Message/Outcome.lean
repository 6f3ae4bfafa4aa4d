import FleetBridge.Message.Telemetry

/-!
# Judging action states

A batch of action states decides a command as soon as one action failed, or when
there are some and all are finished.
-/

namespace FleetBridge
namespace Message

namespace Verdict

def ofStates (states : List ActionState) : Verdict :=
  if states.any (fun s => s.status == .failed) then failure
  else if states.isEmpty then inProgress
  else if states.all (fun s => s.status == .finished) then success
  else inProgress

end Verdict

namespace ActionState

/-- Why an action failed, in the robot's words if it has any. -/
def failureText (s : ActionState) : String :=
  "action " ++ s.actionId ++ " failed" ++
    match s.resultDescription with
    | some description => if description.isEmpty then "" else ": " ++ description
    | none => ""

end ActionState

/-- Why the first failed action of a batch failed. -/
def failureReason? (states : List ActionState) : Option String :=
  (states.find? (fun s => s.status == .failed)).map ActionState.failureText

end Message
end FleetBridge
