import FleetBridge.Decimal.Digits
import FleetBridge.Transport.Kind

/-!
# Failures of a transport

What can go wrong between handing over a payload and knowing that it is on its
way.
-/

namespace FleetBridge
namespace Transport

inductive Failure where
  | notRegistered (kind : Kind)
  | notConnected (kind : Kind)
  | publishTimedOut (destination : String) (timeoutMillis : Nat)
  | sendFailed (kind : Kind) (details : String)
  | httpStatus (url : String) (status : Nat)
  | cancelled
  /-- The payload is not what the transport can carry. -/
  | serialization (details : String)
  deriving DecidableEq

namespace Failure

def name : Failure → String
  | notRegistered _ => "NotRegistered"
  | notConnected _ => "NotConnected"
  | publishTimedOut _ _ => "PublishTimedOut"
  | sendFailed _ _ => "SendFailed"
  | httpStatus _ _ => "HttpStatus"
  | cancelled => "Cancelled"
  | serialization _ => "Serialization"

def message : Failure → String
  | notRegistered kind => "No transport registered for kind '" ++ kind.name ++ "'"
  | notConnected kind => "Transport '" ++ kind.name ++ "' is not connected"
  | publishTimedOut destination timeoutMillis =>
      "Publish to '" ++ destination ++ "' timed out after " ++
        Decimal.text timeoutMillis ++ " ms"
  | sendFailed kind details => "Send over '" ++ kind.name ++ "' failed: " ++ details
  | httpStatus url status =>
      "HTTP POST to '" ++ url ++ "' returned status " ++ Decimal.text status
  | cancelled => "Send cancelled by request context"
  | serialization details => "Payload serialization failed: " ++ details

end Failure
end Transport
end FleetBridge
