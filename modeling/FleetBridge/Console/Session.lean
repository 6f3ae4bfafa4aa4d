import FleetBridge.Bridge.Courier
import FleetBridge.Bridge.Ingest
import FleetBridge.Console.Command
import FleetBridge.Time.Stamp

/-!
# The console session

The bridge as an operator sees it: a prompt before each line, and behind it the
lines that answer it.  A session ends with the text or when the operator quits.
-/

namespace FleetBridge
namespace Console

open Message

def prompt : String := "fleetlink> "

/-! ## Texts -/

def errorLine (text : String) : String :=
  "  ✗ " ++ text

structure HelpEntry where
  usage : String
  purpose : String

def helpEntries : List HelpEntry :=
  [ ⟨"/order <device> <template> [k=v ...]", "dispatch a templated order"⟩,
    ⟨"/instant <device> <actionType> [k=v ...]", "send one instant action"⟩,
    ⟨"/factsheet <device>", "request a factsheet"⟩,
    ⟨"/init <device> <x> <y> <theta> <map>", "initialise the robot pose"⟩,
    ⟨"/cancel <orderId>", "cancel an order record"⟩,
    ⟨"/started | /completed <orderId>", "report order progress"⟩,
    ⟨"/failed <orderId> [reason]", "report an order failure"⟩,
    ⟨"/status <orderId>", "show one order record"⟩,
    ⟨"/orders <device> [limit] [offset]", "list a robot's orders"⟩,
    ⟨"/counts [device]", "record counts per status"⟩,
    ⟨"/devices", "robots currently online"⟩,
    ⟨"/templates", "loaded order templates"⟩,
    ⟨"/fail-pending [reason]", "fail every pending command"⟩,
    ⟨"/quit  /exit", "exit the CLI"⟩ ]

def helpLines : List String :=
  ["", "fleetlink Commands"] ++
    helpEntries.map (fun e => "  " ++ e.usage ++ " – " ++ e.purpose) ++
    ["", "  Dispatching commands accept --via <queue|http|stream>.", ""]

def refusalLines (r : Refusal) : List String :=
  ["✗ " ++ r.message ++ ". Type /help for available commands."]

def recordLine (r : Record) : String :=
  "  " ++ r.orderId ++ " " ++ r.device ++ " " ++ r.status.name ++ " rev " ++
    Decimal.text r.revision.toNat ++ " " ++ r.createdAt.display ++
    (match r.errorMessage with
    | none => ""
    | some m => " – " ++ m)

def recordLines : Except Bridge.Error Record → List String
  | .ok r => [recordLine r]
  | .error e => [errorLine e.message]

def dispatchLines : Except Bridge.Error Bridge.Dispatched → List String
  | .ok d =>
      ["  ✓ " ++ d.orderId ++ " sent to " ++ d.device ++ " via " ++ d.transport.name ++
          " (header " ++ Decimal.text d.headerId.toNat ++ ")",
        "    " ++ d.destination]
  | .error e => [errorLine e.message]

def orderLines (device : String) : Except Bridge.Error (List Record) → List String
  | .ok [] => ["  No orders for " ++ device ++ "."]
  | .ok rs => rs.map recordLine
  | .error e => [errorLine e.message]

def countLine (b : Bridge) (device : Option String) (s : Record.Status) : String :=
  "  " ++ String.ofList (s.name.toList.rightpad 10 ' ') ++ " " ++ Decimal.text (b.countOrders s device)

def deviceLine (p : Presence) (device : String) : String :=
  "  • " ++ device ++ " " ++
    (match p.lastSeen? device with
    | none => ""
    | some seen => String.ofList seen.timeText)

def deviceLines (connected : Bool) (p : Presence) : List String :=
  ("  Broker: " ++ (if connected then "connected" else "disconnected")) ::
    (match p.online with
    | [] => ["  No robots online."]
    | devices => devices.map (deviceLine p))

def templateLines (l : Template.Library) : List String :=
  match l.orderIds with
  | [] => ["  No order templates loaded."]
  | ids => ids.map ("  • " ++ ·)

/-! ## Commands -/

def instantAction (u : Uuid) (actionType : String) (parameters : List Parameter) :
    Action × String :=
  let actionId := actionType ++ "-" ++ u.text
  ({ actionType, actionId, description := none, blocking := .hard, parameters },
    actionType ++ " (" ++ actionId ++ ")")

def commandOf (errand : Errand) (b : Bridge) : Bridge.Command × Bridge :=
  match errand with
  | .order templateId overrides => (.order templateId overrides, b)
  | .instant actionType parameters =>
      let (u, b) := b.draw
      let (action, text) := instantAction u actionType parameters
      (.instantActions [action] text, b)
  | .factsheet => (.factsheet, b)
  | .initPosition pose => (.initPosition pose, b)

def execute (c : Courier σ) (now : Time.Moment) (connected : Bool) (command : Command) (s : σ) :
    List String × σ :=
  let change (f : Bridge → Except Bridge.Error Record × Bridge) : List String × σ :=
    let (r, s) := c.onBridge f s
    (recordLines r, s)
  let b := c.bridge s
  match command with
  | .help => (helpLines, s)
  | .quit => ([], s)
  | .send device errand via =>
      let (command, s) := c.onBridge (commandOf errand) s
      let (r, s) := c.dispatch now device via command false s
      (dispatchLines r, s)
  | .cancel orderId => change (Bridge.cancelOrder now orderId)
  | .started orderId => change (Bridge.markStarted now orderId)
  | .completed orderId => change (Bridge.markCompleted now orderId)
  | .failed orderId reason => change (Bridge.markFailed now orderId reason)
  | .status orderId => (recordLines (b.getOrder orderId), s)
  | .orders device limit offset =>
      (orderLines device (b.ordersOfDevice device limit offset), s)
  | .counts device => (Record.Status.all.map (countLine b device), s)
  | .devices => (deviceLines connected b.presence, s)
  | .templates => (templateLines b.library, s)
  | .failPending reason =>
      let (rs, s) := c.onBridge (Bridge.failAll now reason) s
      (["  ✓ " ++ Decimal.text rs.length ++ " pending command(s) failed."], s)

/-! ## Sessions -/

/-- What follows from a line: the lines that answer it, and whether the operator
leaves. -/
structure Reply where
  lines : List String
  leaves : Bool
  deriving DecidableEq

/-- Answers one line; one that holds nothing is passed over. -/
def reply (c : Courier σ) (now : Time.Moment) (connected : Bool) (line : String) (s : σ) :
    Reply × σ :=
  if Text.isAllBlank line then ({ lines := [], leaves := false }, s)
  else
    match Command.ofLine line with
    | .ok .quit => ({ lines := ["Goodbye."], leaves := true }, s)
    | .ok command =>
        let (lines, s) := execute c now connected command s
        ({ lines, leaves := false }, s)
    | .error r => ({ lines := refusalLines r, leaves := false }, s)

def Reply.text (r : Reply) : String :=
  String.join (r.lines.map (· ++ "\n"))

/-- The lines of a text; a line break at its end begins no further line. -/
def linesOf (text : String) : List String :=
  match (text.splitOn "\n").reverse with
  | "" :: rest => rest.reverse
  | _ => text.splitOn "\n"

def run (c : Courier σ) (now : Time.Moment) (connected : Bool) :
    List String → σ → String × Bool × σ
  | [], s => (prompt, false, s)
  | line :: rest, s =>
      let (r, s) := reply c now connected line s
      if r.leaves then (prompt ++ r.text, true, s)
      else
        let (printed, left, s) := run c now connected rest s
        (prompt ++ r.text ++ printed, left, s)

end Console
end FleetBridge
