import FleetBridge.Text.Blank
import FleetBridge.Text.Case
import FleetBridge.Json.Codec

/-!
# Kinds of transport

A robot is reached over a message queue, by an HTTP request or through an open
socket.  A kind goes by several names when it is typed, in any case.
-/

namespace FleetBridge
namespace Transport

inductive Kind where
  | queue
  | http
  | stream
  deriving DecidableEq

structure UnknownKind where
  /-- The text in small letters, without blanks around it. -/
  name : String
  deriving DecidableEq

namespace UnknownKind

def message (e : UnknownKind) : String :=
  "Unknown transport '" ++ e.name ++ "' (expected queue, http or stream)"

end UnknownKind

namespace Kind

def all : List Kind :=
  [http, queue, stream]

def name : Kind → String
  | queue => "queue"
  | http => "http"
  | stream => "stream"

def ofName? : String → Option Kind
  | "queue" => some queue
  | "mqtt" => some queue
  | "http" => some http
  | "stream" => some stream
  | "websocket" => some stream
  | "ws" => some stream
  | _ => none

def ofText (s : String) : Except UnknownKind Kind :=
  let typed := Text.lower (Text.trim s)
  match ofName? typed with
  | some k => .ok k
  | none => .error { name := typed }

def codec : Json.Codec Kind :=
  .word all name

end Kind
end Transport
end FleetBridge
