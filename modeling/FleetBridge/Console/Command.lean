import FleetBridge.Decimal.Scaling
import FleetBridge.Message.Request
import FleetBridge.Text.Blank
import FleetBridge.Transport.Kind

/-!
# Console commands

What an operator may type.  A line is a sequence of words: a command word and its
arguments.  The option `--via` with a kind of transport may stand anywhere among
them and is cut out before the rest is read; only commands that send something
admit it.
-/

namespace FleetBridge
namespace Console

open Message

inductive Errand where
  | order (templateId : String) (overrides : Overrides)
  | instant (actionType : String) (parameters : List Parameter)
  | factsheet
  | initPosition (pose : Pose)

inductive Command where
  | help
  | quit
  | send (device : String) (errand : Errand) (via : Option Transport.Kind)
  | cancel (orderId : String)
  | started (orderId : String)
  | completed (orderId : String)
  | failed (orderId reason : String)
  | status (orderId : String)
  | orders (device : String) (limit offset : UInt64)
  | counts (device : Option String)
  | devices
  | templates
  | failPending (reason : String)

inductive Refusal where
  | empty
  | unknown (word : String)
  /-- The arguments do not fit the pattern. -/
  | usage (pattern : String)
  | viaWithoutKind
  | viaUnknown (kind : Transport.UnknownKind)
  /-- The option stands with a command that sends nothing. -/
  | viaWithoutSend (word : String)
  | notAssignment (word : String)
  | notNumber (argument word : String)
  | notCount (argument word : String)
  deriving DecidableEq

namespace Refusal

def message : Refusal → String
  | empty => "empty command"
  | unknown word => "unknown command '" ++ word ++ "'"
  | usage pattern => "usage: " ++ pattern
  | viaWithoutKind => "--via needs a transport (queue, http or stream)"
  | viaUnknown kind => kind.message
  | viaWithoutSend word => word ++ " does not send anything; drop --via"
  | notAssignment word => "expected key=value, got '" ++ word ++ "'"
  | notNumber argument word => argument ++ " must be a number, got '" ++ word ++ "'"
  | notCount argument word =>
      argument ++ " must be a non-negative integer, got '" ++ word ++ "'"

end Refusal

/-! ## The option -/

def viaOption : String := "--via"

/-- The first use of the option, and the words without it. -/
def cutVia : List String → Except Refusal (Option Transport.Kind × List String)
  | [] => .ok (none, [])
  | word :: rest =>
      if word == viaOption then
        match rest with
        | [] => .error .viaWithoutKind
        | kind :: rest =>
            match Transport.Kind.ofText kind with
            | .ok k => .ok (some k, rest)
            | .error e => .error (.viaUnknown e)
      else do
        let (via, rest) ← cutVia rest
        return (via, word :: rest)

/-! ## Arguments -/

/-- A word of the form `key=value`; what is not JSON stands for itself. -/
def assignment (word : String) : Except Refusal Parameter :=
  match word.toList.span (· != '=') with
  | ([], _) => .error (.notAssignment word)
  | (_, []) => .error (.notAssignment word)
  | (key, _ :: rest) =>
      let raw := String.ofList rest
      .ok { key := String.ofList key, value := (Json.Value.ofText? raw).getD (.string raw) }

/-- Assignments by key; the last one of a key counts. -/
def asOverrides (ps : List Parameter) : Overrides :=
  ps.foldl (fun os p => Json.insertMember p.key p.value os) []

def number (argument word : String) : Except Refusal Float :=
  match Decimal.nearest? word with
  | some x => .ok x
  | none => .error (.notNumber argument word)

def count (argument word : String) : Except Refusal UInt64 :=
  match (Decimal.natOfText? word).filter (· < UInt64.size) with
  | some n => .ok (UInt64.ofNat n)
  | none => .error (.notCount argument word)

/-- The words with a blank between them; a default if there are none. -/
def phrase (fallback : String) : List String → String
  | [] => fallback
  | words => " ".intercalate words

def aboutOrder (word : String) (make : String → Command) : List String → Except Refusal Command
  | [orderId] => .ok (make orderId)
  | _ => .error (.usage (word ++ " <orderId>"))

/-! ## Commands -/

def defaultLimit : UInt64 := 20

def operatorFailure : String := "failed by operator"

def operatorSweep : String := "failed by operator request"

namespace Command

def ofOrderArgs : List String → Except Refusal Command
  | device :: templateId :: rest => do
      let ps ← rest.mapM assignment
      return send device (.order templateId (asOverrides ps)) none
  | _ => .error (.usage "/order <device> <template> [key=value ...]")

def ofInstantArgs : List String → Except Refusal Command
  | device :: actionType :: rest => do
      let ps ← rest.mapM assignment
      return send device (.instant actionType ps) none
  | _ => .error (.usage "/instant <device> <actionType> [key=value ...]")

def ofInitArgs : List String → Except Refusal Command
  | [device, x, y, theta, mapId] => do
      let x ← number "x" x
      let y ← number "y" y
      let theta ← number "theta" theta
      return send device (.initPosition { x, y, theta, mapId, lastNodeId := none }) none
  | _ => .error (.usage "/init <device> <x> <y> <theta> <map>")

def ofOrdersArgs : List String → Except Refusal Command
  | [device] => .ok (orders device defaultLimit 0)
  | [device, limit] => do
      return orders device (← count "limit" limit) 0
  | [device, limit, offset] => do
      let limit ← count "limit" limit
      let offset ← count "offset" offset
      return orders device limit offset
  | _ => .error (.usage "/orders <device> [limit] [offset]")

def ofArgs (word : String) (args : List String) : Except Refusal Command :=
  match word with
  | "/help" => .ok help
  | "/quit" => .ok quit
  | "/exit" => .ok quit
  | "/order" => ofOrderArgs args
  | "/instant" => ofInstantArgs args
  | "/factsheet" =>
      match args with
      | [device] => .ok (send device .factsheet none)
      | _ => .error (.usage "/factsheet <device>")
  | "/init" => ofInitArgs args
  | "/cancel" => aboutOrder word cancel args
  | "/started" => aboutOrder word started args
  | "/completed" => aboutOrder word completed args
  | "/failed" =>
      match args with
      | orderId :: reason => .ok (failed orderId (phrase operatorFailure reason))
      | [] => .error (.usage "/failed <orderId> [reason]")
  | "/status" => aboutOrder word status args
  | "/orders" => ofOrdersArgs args
  | "/counts" =>
      match args with
      | [] => .ok (counts none)
      | [device] => .ok (counts (some device))
      | _ => .error (.usage "/counts [device]")
  | "/devices" => .ok devices
  | "/templates" => .ok templates
  | "/fail-pending" => .ok (failPending (phrase operatorSweep args))
  | _ => .error (.unknown word)

def sentOver (word : String) (via : Option Transport.Kind) : Command → Except Refusal Command
  | send device errand _ => .ok (send device errand via)
  | c => if via.isSome then .error (.viaWithoutSend word) else .ok c

def ofWords (words : List String) : Except Refusal Command := do
  match ← cutVia words with
  | (_, []) => throw .empty
  | (via, word :: args) =>
      let c ← ofArgs word args
      c.sentOver word via

def ofLine (line : String) : Except Refusal Command :=
  ofWords (Text.words line)

end Command
end Console
end FleetBridge
