import FleetBridge.Json.Record

/-!
# What robots report

The state of a robot, its connection, and the outcome of a command as the bridge
makes it out from them.
-/

namespace FleetBridge
namespace Message

inductive ActionStatus where
  | waiting
  | initializing
  | running
  | paused
  | finished
  | failed
  deriving DecidableEq

namespace ActionStatus

def name : ActionStatus → String
  | waiting => "WAITING"
  | initializing => "INITIALIZING"
  | running => "RUNNING"
  | paused => "PAUSED"
  | finished => "FINISHED"
  | failed => "FAILED"

def codec : Json.Codec ActionStatus :=
  .word [waiting, initializing, running, paused, finished, failed] name

end ActionStatus

structure ActionState where
  actionId : String
  actionType : Option String
  status : ActionStatus
  resultDescription : Option String
  deriving DecidableEq

namespace ActionState

def layout :
    Json.Layout (String × Option String × ActionStatus × Option String × Unit) :=
  .field (.required "actionId" .text) <|
  .field (.optional "actionType" .text) <|
  .field (.required "actionStatus" ActionStatus.codec) <|
  .field (.optional "resultDescription" .text) <|
  .done

def codec : Json.Codec ActionState :=
  layout.codec
    (fun s => (s.actionId, s.actionType, s.status, s.resultDescription, ()))
    (fun (actionId, actionType, status, resultDescription, _) =>
      { actionId, actionType, status, resultDescription })

end ActionState

structure Fault where
  errorType : String
  errorLevel : String
  errorDescription : Option String
  deriving DecidableEq

namespace Fault

def layout : Json.Layout (String × String × Option String × Unit) :=
  .field (.required "errorType" .text) <|
  .field (.defaulted "errorLevel" .text "") <|
  .field (.optional "errorDescription" .text) <|
  .done

def codec : Json.Codec Fault :=
  layout.codec
    (fun f => (f.errorType, f.errorLevel, f.errorDescription, ()))
    (fun (errorType, errorLevel, errorDescription, _) =>
      { errorType, errorLevel, errorDescription })

end Fault

/-- What of a robot's state is worth telling when it changes. -/
structure Summary where
  orderId : String
  lastNodeId : String
  driving : Bool
  paused : Bool
  operatingMode : Option String
  errorCount : Nat
  runningActions : Nat
  deriving DecidableEq

namespace Summary

def layout :
    Json.Layout (String × String × Bool × Bool × Option String × Nat × Nat × Unit) :=
  .field (.required "order_id" .text) <|
  .field (.required "last_node_id" .text) <|
  .field (.required "driving" .bool) <|
  .field (.required "paused" .bool) <|
  .field (.nullable "operating_mode" .text) <|
  .field (.required "error_count" .count) <|
  .field (.required "running_actions" .count) <|
  .done

def codec : Json.Codec Summary :=
  layout.codec
    (fun s =>
      (s.orderId, s.lastNodeId, s.driving, s.paused, s.operatingMode, s.errorCount,
        s.runningActions, ()))
    (fun (orderId, lastNodeId, driving, paused, operatingMode, errorCount,
        runningActions, _) =>
      { orderId, lastNodeId, driving, paused, operatingMode, errorCount, runningActions })

end Summary

structure State where
  headerId : UInt64
  timestamp : Option Time.Instant
  manufacturer : String
  serialNumber : String
  orderId : String
  orderUpdateId : UInt64
  lastNodeId : String
  driving : Bool
  paused : Bool
  operatingMode : Option String
  actionStates : List ActionState
  faults : List Fault
  deriving DecidableEq

namespace State

def layout :
    Json.Layout (UInt64 × Option Time.Instant × String × String × String × UInt64 ×
      String × Bool × Bool × Option String × List ActionState × List Fault × Unit) :=
  .field (.defaulted "headerId" .uint64 0) <|
  .field (.optional "timestamp" .instant) <|
  .field (.defaulted "manufacturer" .text "") <|
  .field (.required "serialNumber" .text) <|
  .field (.defaulted "orderId" .text "") <|
  .field (.defaulted "orderUpdateId" .uint64 0) <|
  .field (.defaulted "lastNodeId" .text "") <|
  .field (.defaulted "driving" .bool false) <|
  .field (.defaulted "paused" .bool false) <|
  .field (.optional "operatingMode" .text) <|
  .field (.defaulted "actionStates" ActionState.codec.list []) <|
  .field (.defaulted "errors" Fault.codec.list []) <|
  .done

def codec : Json.Codec State :=
  layout.codec
    (fun s =>
      (s.headerId, s.timestamp, s.manufacturer, s.serialNumber, s.orderId,
        s.orderUpdateId, s.lastNodeId, s.driving, s.paused, s.operatingMode,
        s.actionStates, s.faults, ()))
    (fun (headerId, timestamp, manufacturer, serialNumber, orderId, orderUpdateId,
        lastNodeId, driving, paused, operatingMode, actionStates, faults, _) =>
      { headerId, timestamp, manufacturer, serialNumber, orderId, orderUpdateId,
        lastNodeId, driving, paused, operatingMode, actionStates, faults })

/-- The order a robot is working on; an empty id stands for none. -/
def activeOrder? (s : State) : Option String :=
  if s.orderId.isEmpty then none else some s.orderId

def summary (s : State) : Summary :=
  { orderId := s.orderId
    lastNodeId := s.lastNodeId
    driving := s.driving
    paused := s.paused
    operatingMode := s.operatingMode
    errorCount := s.faults.length
    runningActions := s.actionStates.countP (fun a => a.status == .running) }

end State

inductive ConnectionStatus where
  | online
  | offline
  | broken
  deriving DecidableEq

namespace ConnectionStatus

def name : ConnectionStatus → String
  | online => "ONLINE"
  | offline => "OFFLINE"
  | broken => "CONNECTIONBROKEN"

def isOnline (s : ConnectionStatus) : Bool :=
  s == online

def codec : Json.Codec ConnectionStatus :=
  .word [online, offline, broken] name

end ConnectionStatus

structure Connection where
  headerId : UInt64
  timestamp : Option Time.Instant
  manufacturer : String
  serialNumber : String
  status : ConnectionStatus
  deriving DecidableEq

namespace Connection

def layout :
    Json.Layout (UInt64 × Option Time.Instant × String × String × ConnectionStatus × Unit) :=
  .field (.defaulted "headerId" .uint64 0) <|
  .field (.optional "timestamp" .instant) <|
  .field (.defaulted "manufacturer" .text "") <|
  .field (.required "serialNumber" .text) <|
  .field (.required "connectionState" ConnectionStatus.codec) <|
  .done

def codec : Json.Codec Connection :=
  layout.codec
    (fun c => (c.headerId, c.timestamp, c.manufacturer, c.serialNumber, c.status, ()))
    (fun (headerId, timestamp, manufacturer, serialNumber, status, _) =>
      { headerId, timestamp, manufacturer, serialNumber, status })

end Connection

inductive Verdict where
  | inProgress
  | success
  | failure
  deriving DecidableEq

namespace Verdict

def name : Verdict → String
  | inProgress => "InProgress"
  | success => "Success"
  | failure => "Failure"

def isDecided (v : Verdict) : Bool :=
  v != inProgress

def codec : Json.Codec Verdict :=
  .word [inProgress, success, failure] name

end Verdict

structure CommandResult where
  correlationKey : String
  device : String
  commandText : String
  verdict : Verdict
  message : Option String
  finishedAt : Time.Instant
  deriving DecidableEq

namespace CommandResult

def layout :
    Json.Layout (String × String × String × Verdict × Option String × Time.Instant × Unit) :=
  .field (.required "correlation_key" .text) <|
  .field (.required "device_id" .text) <|
  .field (.required "command_text" .text) <|
  .field (.required "verdict" Verdict.codec) <|
  .field (.nullable "message" .text) <|
  .field (.required "finished_at" .instant) <|
  .done

def codec : Json.Codec CommandResult :=
  layout.codec
    (fun r =>
      (r.correlationKey, r.device, r.commandText, r.verdict, r.message, r.finishedAt, ()))
    (fun (correlationKey, device, commandText, verdict, message, finishedAt, _) =>
      { correlationKey, device, commandText, verdict, message, finishedAt })

end CommandResult
end Message
end FleetBridge
