import FleetBridge.Json.Record
import FleetBridge.Record.Status

/-!
# Records of dispatched commands

One record is kept for each order and each direct command, from the moment
before it is sent.
-/

namespace FleetBridge

structure Record where
  orderId : String
  /-- The template of an order; direct commands have none. -/
  templateId : Option String
  device : String
  revision : UInt64
  status : Record.Status
  errorMessage : Option String
  createdAt : Time.Instant
  startedAt : Option Time.Instant
  completedAt : Option Time.Instant
  deriving DecidableEq

namespace Record

structure Draft where
  orderId : String
  templateId : Option String
  device : String
  revision : UInt64
  deriving DecidableEq

def layout :
    Json.Layout (String × Option String × String × UInt64 × Status × Option String ×
      Time.Instant × Option Time.Instant × Option Time.Instant × Unit) :=
  .field (.required "order_id" .text) <|
  .field (.nullable "template_id" .text) <|
  .field (.required "device_id" .text) <|
  .field (.required "order_revision" .uint64) <|
  .field (.required "status" Status.codec) <|
  .field (.nullable "error_message" .text) <|
  .field (.required "created_at" .instant) <|
  .field (.nullable "started_at" .instant) <|
  .field (.nullable "completed_at" .instant) <|
  .done

def codec : Json.Codec Record :=
  layout.codec
    (fun r =>
      (r.orderId, r.templateId, r.device, r.revision, r.status, r.errorMessage,
        r.createdAt, r.startedAt, r.completedAt, ()))
    (fun (orderId, templateId, device, revision, status, errorMessage, createdAt,
        startedAt, completedAt, _) =>
      { orderId, templateId, device, revision, status, errorMessage, createdAt,
        startedAt, completedAt })

def unspecifiedFailure : String := "failed without a reported reason"

def interruptedDispatch : String := "bridge stopped before the send outcome was recorded"

end Record
end FleetBridge
