import FleetBridge.Text.Utf8
import FleetBridge.Transport.Failure

/-!
# Transports without a connection

What each transport answers as long as nothing can be reached: a queue without
its broker, a client for addresses that cannot be called, sockets that cannot be
opened.
-/

namespace FleetBridge
namespace Transport

structure Unconnected where
  kind : Kind
  closed : Bool
  deriving DecidableEq

namespace Unconnected

def ofKind (kind : Kind) : Unconnected :=
  { kind, closed := false }

def frameFault? (payload : List UInt8) : Option Failure :=
  (Text.fault? payload).map (fun f => .serialization f.message)

/-- The failure of a send; nothing gets through. -/
def send (cancelled : Bool) (destination : String) (payload : List UInt8)
    (t : Unconnected) : Failure :=
  match t.kind with
  | .queue => if cancelled then .cancelled else .notConnected .queue
  | .http =>
      if t.closed then .notConnected .http
      else if cancelled then .cancelled
      else .sendFailed .http ("no answer from " ++ destination)
  | .stream =>
      if t.closed then .notConnected .stream
      else if cancelled then .cancelled
      else
        (frameFault? payload).getD
          (.sendFailed .stream ("connect to " ++ destination ++ " failed"))

def close (t : Unconnected) : Unconnected :=
  { t with closed := true }

def isConnected (_ : Unconnected) : Bool :=
  false

def openSockets (_ : Unconnected) : Nat :=
  0

end Unconnected
end Transport
end FleetBridge
